import CommandShell.Proofs.Lexing.Scanner
set_option autoImplicit false

/-!
# Tokens across line breaks

A line break ends whatever stands before it: a comment, a word, and an operator that could have
become a longer one.  So a text that leaves no quote and no escape open can be cut into tokens line
by line, and a text with a stray ampersand stays without tokens whatever comes after it.
-/

namespace CommandShell

/-- What two texts have together, one after the other: the tokens of both, and what the second
leaves open. -/
def Lexed.append (lexed next : Lexed) : Lexed :=
  ⟨lexed.tokens ++ next.tokens, next.inEscape, next.inQuote, lexed.depth + next.depth⟩

namespace Lexer

/-- The same word with more text behind it. -/
def WordRead.before (read : WordRead) (more : List Char) : WordRead :=
  { read with rest := read.rest ++ more }

/-! ## The readers with more text behind -/

section Readers

variable {cs rest more : List Char} {c : Char} {word : List Char} {found : Bool}

/-- Blanks and comments before a token are dropped whatever comes after the token. -/
theorem skip_append {comment : Bool} (h : skip comment cs = c :: rest) :
    skip comment (cs ++ more) = c :: (rest ++ more) := by
  fun_induction skip comment cs with
  | case1 => cases h
  | case2 c' cs ih =>
    rw [List.cons_append, skip, if_pos rfl]
    exact ih h
  | case3 comment c' cs hcomment hblank ih =>
    rw [List.cons_append, skip, if_neg hcomment, if_pos hblank]
    exact ih h
  | case4 comment cs hcomment hblank ih =>
    rw [List.cons_append, skip, if_neg hcomment, if_neg hblank, if_pos rfl]
    exact ih h
  | case5 comment c' cs hcomment hblank hhash =>
    rw [List.cons_append, skip, if_neg hcomment, if_neg hblank, if_neg hhash]
    cases h
    rfl

/-- A line break is dropped with the blanks before it, and ends a comment. -/
theorem skip_lineBreak {comment : Bool} (h : skip comment cs = []) :
    skip comment (cs ++ '\n' :: more) = skip false more := by
  fun_induction skip comment cs with
  | case1 comment =>
    cases comment <;> rfl
  | case2 c' cs ih =>
    rw [List.cons_append, skip, if_pos rfl]
    exact ih h
  | case3 comment c' cs hcomment hblank ih =>
    rw [List.cons_append, skip, if_neg hcomment, if_pos hblank]
    exact ih h
  | case4 comment cs hcomment hblank ih =>
    rw [List.cons_append, skip, if_neg hcomment, if_neg hblank, if_pos rfl]
    exact ih h
  | case5 => cases h

/-- No operator goes on with a line break. -/
theorem read?_lineBreak {read : Option (Operator × List Char)}
    (h : Operator.read? (c :: rest) = read) :
    Operator.read? (c :: (rest ++ '\n' :: more))
      = read.map fun (op, after) => (op, after ++ '\n' :: more) := by
  subst h
  cases rest with
  | nil =>
    unfold Operator.read?
    split <;> simp_all
  | cons next rest =>
    by_cases hbar : c = '|'
    · by_cases hnext : next = '|' <;> simp [Operator.read?, hbar, hnext]
    by_cases hgreater : c = '>'
    · by_cases hnext : next = '>' <;> simp [Operator.read?, hgreater, hnext]
    unfold Operator.read?
    split <;> simp_all

/-- A run of direct characters that stops before the end of the text, or outside quotes at the end
of it, stops there with a line break behind as well. -/
theorem readDirect_lineBreak {quoted : Bool} {longer after : List Char}
    (h : readDirect quoted word cs = ⟨longer, after, false⟩)
    (hstops : after = [] → quoted = false) :
    readDirect quoted word (cs ++ '\n' :: more) = ⟨longer, after ++ '\n' :: more, false⟩ := by
  fun_induction readDirect quoted word cs with
  | case1 word =>
    cases h
    rw [hstops rfl, List.nil_append, readDirect.eq_def]
    rfl
  | case2 word => cases h
  | case3 word escaped rest ih =>
    exact ih h
  | case4 word c rest hbackslash hdirect ih =>
    rw [List.cons_append, readDirect.eq_def]
    simp only [if_neg hbackslash, if_pos hdirect]
    exact ih h
  | case5 word c rest hbackslash hdirect =>
    cases h
    rw [List.cons_append, readDirect.eq_def]
    simp only [if_neg hbackslash, if_neg hdirect]

/-- A quoted part of a word that is closed goes on to the rest of the word. -/
theorem readWord_quoted {longer after : List Char} {inEscape : Bool}
    (h : readDirect true word rest = ⟨longer, c :: after, inEscape⟩) :
    readWord word found ('"' :: rest) = readWord longer true after := by
  rw [readWord, if_pos rfl]
  split <;> simp_all

/-- And so does a run of direct characters. -/
theorem readWord_direct {longer after : List Char} (hquote : c ≠ '"')
    (hdirect : isDirect false c = true)
    (h : readDirect false word (c :: rest) = ⟨longer, after, false⟩) :
    readWord word found (c :: rest) = readWord longer true after := by
  rw [readWord, if_neg hquote, dif_pos hdirect]
  split <;> simp_all

/-- Any other character ends the word. -/
theorem readWord_stop (hquote : c ≠ '"') (hdirect : isDirect false c = false) :
    readWord word found (c :: rest) = ⟨word, found, c :: rest, false, false⟩ := by
  rw [readWord, if_neg hquote, dif_neg (Bool.eq_false_iff.1 hdirect)]

/-- A word that is not left open ends at a line break at the latest. -/
theorem readWord_lineBreak (hclosed : (readWord word found cs).isClosed = true) :
    readWord word found (cs ++ '\n' :: more) = (readWord word found cs).before ('\n' :: more) := by
  fun_induction readWord word found cs with
  | case1 word found => exact readWord_stop (by decide) rfl
  | case2 | case4 => simp [WordRead.isClosed] at hclosed
  | case3 word found rest longer c after inEscape h ih =>
    obtain ⟨rfl, rfl⟩ := Scanner.readDirect_quoted h
    rw [List.cons_append, readWord_quoted (readDirect_lineBreak h fun h => by cases h)]
    exact ih hclosed
  | case5 word found c rest hquote hdirect longer after h ih =>
    refine (readWord_direct hquote hdirect (readDirect_lineBreak h fun _ => rfl)).trans ?_
    exact ih hclosed
  | case6 word found c rest hquote hdirect =>
    exact readWord_stop hquote (Bool.eq_false_iff.2 hdirect)

end Readers

/-! ## Tokens one at a time -/

section Tokens

variable (tokens : List Token) (depth : Int) {cs rest : List Char} {c : Char}

/-- Blanks and comments before the first token do not matter. -/
theorem tokenizeFrom_congr {cs' : List Char} (h : skip false cs = skip false cs') :
    tokenizeFrom tokens depth cs = tokenizeFrom tokens depth cs' := by
  rw [tokenizeFrom, h, ← tokenizeFrom]

theorem tokenizeFrom_nil (h : skip false cs = []) :
    tokenizeFrom tokens depth cs = .ok ⟨tokens.reverse, false, false, depth⟩ := by
  rw [tokenizeFrom]
  split <;> simp_all

theorem tokenizeFrom_operator {op : Operator} {after : List Char} (h : skip false cs = c :: rest)
    (hread : Operator.read? (c :: rest) = some (op, after)) :
    tokenizeFrom tokens depth cs
      = tokenizeFrom (.operator op :: tokens) (depth + op.scopeChange) after := by
  rw [tokenizeFrom]
  split
  · simp_all
  · split <;> simp_all

theorem tokenizeFrom_ampersand (h : skip false cs = '&' :: rest)
    (hread : Operator.read? ('&' :: rest) = none) :
    tokenizeFrom tokens depth cs = .error (.unexpected '&') := by
  rw [tokenizeFrom]
  split
  · simp_all
  · split <;> simp_all

/-- What begins a word and is not left open is one. -/
theorem tokenizeFrom_word (h : skip false cs = c :: rest)
    (hread : Operator.read? (c :: rest) = none) (hampersand : c ≠ '&')
    (hclosed : (readWord [] false (c :: rest)).isClosed = true) :
    tokenizeFrom tokens depth cs
      = tokenizeFrom (.word (String.ofList (readWord [] false (c :: rest)).word.reverse) :: tokens)
          depth (readWord [] false (c :: rest)).rest := by
  obtain ⟨hblank, hhash⟩ := Scanner.skip_eq_cons h
  have hfound := Scanner.readWord_found_of_isClosed
    (Scanner.begins_word hblank hhash hread hampersand) hclosed
  rw [tokenizeFrom]
  split
  · simp_all
  · split
    · simp_all
    · rename_i heq _
      obtain ⟨rfl, rfl⟩ := List.cons.inj (h.symm.trans heq)
      rw [if_neg hampersand]
      simp only [hfound, hclosed, and_self, ↓reduceDIte, if_true]

/-- A word that is left open ends the text.  It counts as a token if a part of it is finished. -/
theorem tokenizeFrom_open (h : skip false cs = c :: rest)
    (hread : Operator.read? (c :: rest) = none) (hampersand : c ≠ '&') {read : WordRead}
    (hword : readWord [] false (c :: rest) = read)
    (hopen : ¬ (read.found = true ∧ read.isClosed = true)) :
    tokenizeFrom tokens depth cs
      = .ok ⟨(if read.found then .word (String.ofList read.word.reverse) :: tokens
          else tokens).reverse, read.inEscape, read.inQuote, depth⟩ := by
  rw [tokenizeFrom]
  split
  · simp_all
  · split
    · simp_all
    · rename_i heq _
      obtain ⟨rfl, rfl⟩ := List.cons.inj (h.symm.trans heq)
      rw [if_neg hampersand, hword]
      exact dif_neg hopen

/-- The tokens and the depth that a text is cut after come before those of the text. -/
theorem tokenizeFrom_eq_map (cs : List Char) (before : List Token) (depth' : Int) :
    tokenizeFrom (tokens ++ before) (depth' + depth) cs
      = (tokenizeFrom tokens depth cs).map fun lexed =>
          { lexed with
            tokens := before.reverse ++ lexed.tokens
            depth := depth' + lexed.depth } := by
  fun_induction tokenizeFrom tokens depth cs with
  | case1 tokens depth cs hskip =>
    rw [tokenizeFrom_nil _ _ hskip, List.reverse_append]
    rfl
  | case2 tokens depth cs c rest hskip op rest' hread ih =>
    rw [tokenizeFrom_operator _ _ hskip hread, ← ih, Int.add_assoc]
    rfl
  | case3 tokens depth cs rest hskip hread =>
    rw [tokenizeFrom_ampersand _ _ hskip hread]
    rfl
  | case4 tokens depth cs c rest hskip hread hampersand read tokens' hword ih =>
    rw [tokenizeFrom_word _ _ hskip hread hampersand hword.2]
    rw [show tokens' = _ from dif_pos hword.1] at ih ⊢
    exact ih
  | case5 tokens depth cs c rest hskip hread hampersand read tokens' hword =>
    rw [tokenizeFrom_open _ _ hskip hread hampersand rfl hword]
    cases hfound : read.found <;> simp [tokens', hfound, read, Except.map]

/-- A text followed by a line break and more text has no tokens if the text has none.  Otherwise, if
the text leaves no quote and no escape open, the more text is cut after its tokens. -/
theorem tokenizeFrom_lineBreak (cs more : List Char) :
    match tokenizeFrom tokens depth cs with
    | .error e => tokenizeFrom tokens depth (cs ++ '\n' :: more) = .error e
    | .ok lexed => lexed.inEscape = false → lexed.inQuote = false →
        tokenizeFrom tokens depth (cs ++ '\n' :: more)
          = tokenizeFrom lexed.tokens.reverse lexed.depth more := by
  fun_induction tokenizeFrom tokens depth cs with
  | case1 tokens depth cs hskip =>
    intro _ _
    rw [List.reverse_reverse]
    exact tokenizeFrom_congr _ _ (skip_lineBreak hskip)
  | case2 tokens depth cs c rest hskip op rest' hread ih =>
    rw [tokenizeFrom_operator _ _ (skip_append hskip) (read?_lineBreak hread)]
    exact ih
  | case3 tokens depth cs rest hskip hread =>
    exact tokenizeFrom_ampersand _ _ (skip_append hskip) (read?_lineBreak hread)
  | case4 tokens depth cs c rest hskip hread hampersand read tokens' hword ih =>
    have hmore : readWord [] false (c :: (rest ++ '\n' :: more)) = read.before ('\n' :: more) :=
      readWord_lineBreak hword.2
    have hclosed : (readWord [] false (c :: (rest ++ '\n' :: more))).isClosed = true := by
      rw [hmore]
      exact hword.2
    rw [tokenizeFrom_word _ _ (skip_append hskip) (read?_lineBreak hread) hampersand hclosed, hmore]
    rw [show tokens' = _ from dif_pos hword.1] at ih ⊢
    exact ih
  | case5 tokens depth cs c rest hskip hread hampersand read tokens' hword =>
    intro hescape hquote
    have hclosed : read.isClosed = true := by
      simp only at hescape hquote
      rw [WordRead.isClosed, hescape, hquote]
      rfl
    obtain ⟨hblank, hhash⟩ := Scanner.skip_eq_cons hskip
    have hstart := Scanner.begins_word hblank hhash hread hampersand
    exact absurd ⟨Scanner.readWord_found_of_isClosed hstart hclosed, hclosed⟩ hword

end Tokens

end Lexer

/-! ## Texts -/

theorem toList_append_lineBreak (s t : String) :
    (s ++ "\n" ++ t).toList = s.toList ++ '\n' :: t.toList := by
  simp [String.toList_append]

/-- Cutting a text into tokens goes on after a line break with the tokens and the depth so far,
unless the text leaves a quote or an escape open. -/
theorem tokenize_append_lineBreak {s t : String} {lexed : Lexed} (h : tokenize s = .ok lexed)
    (hescape : lexed.inEscape = false) (hquote : lexed.inQuote = false) :
    tokenize (s ++ "\n" ++ t) = (tokenize t).map lexed.append := by
  have hbreak := Lexer.tokenizeFrom_lineBreak [] 0 s.toList t.toList
  change match tokenize s with
    | .error e => _
    | .ok lexed => _ at hbreak
  rw [h] at hbreak
  have hmap := Lexer.tokenizeFrom_eq_map [] 0 t.toList lexed.tokens.reverse lexed.depth
  rw [List.reverse_reverse, List.nil_append, Int.add_zero] at hmap
  rw [tokenize, toList_append_lineBreak, hbreak hescape hquote, hmap]
  rfl

/-- A text without tokens stays so whatever comes after it in a further line. -/
theorem tokenize_append_lineBreak_error {s : String} {e : TokenizeError} (h : tokenize s = .error e)
    (t : String) : tokenize (s ++ "\n" ++ t) = .error e := by
  have hbreak := Lexer.tokenizeFrom_lineBreak [] 0 s.toList t.toList
  change match tokenize s with
    | .error e => _
    | .ok lexed => _ at hbreak
  rw [h] at hbreak
  rw [tokenize, toList_append_lineBreak]
  exact hbreak

/-- A line break cuts a text in two: if the part before it has a stray ampersand, so has the whole;
and if that part leaves no quote and no escape open, the whole has tokens just when the part behind
it has, namely those of both parts, and leaves open what the part behind leaves open, at the sum of
the two depths. -/
theorem tokenize_lineBreak (s t : String) :
    (∀ e, tokenize s = .error e → tokenize (s ++ "\n" ++ t) = .error e) ∧
    ∀ lexed, tokenize s = .ok lexed → lexed.inEscape = false → lexed.inQuote = false →
      (∀ e, tokenize (s ++ "\n" ++ t) = .error e ↔ tokenize t = .error e) ∧
      ∀ next, tokenize t = .ok next →
        tokenize (s ++ "\n" ++ t)
          = .ok ⟨lexed.tokens ++ next.tokens, next.inEscape, next.inQuote,
              lexed.depth + next.depth⟩ := by
  refine ⟨fun e h => tokenize_append_lineBreak_error h t, ?_⟩
  intro lexed h hescape hquote
  rw [tokenize_append_lineBreak h hescape hquote]
  cases tokenize t with
  | error e => exact ⟨fun e' => Iff.rfl, nofun⟩
  | ok next =>
    refine ⟨fun e' => iff_of_false nofun nofun, ?_⟩
    rintro _ ⟨⟩
    rfl

/-- The halves of an operator in two lines are two operators. -/
theorem tokenize_lineBreak_greater :
    tokenize "(a >" = .ok ⟨[.operator .openScope, .word "a", .operator .outputRedirect],
        false, false, 1⟩ ∧
    tokenize "> b\"c" = .ok ⟨[.operator .outputRedirect, .word "bc"], false, true, 0⟩ ∧
    tokenize ("(a >" ++ "\n" ++ "> b\"c") = .ok ⟨[.operator .openScope, .word "a",
        .operator .outputRedirect, .operator .outputRedirect, .word "bc"], false, true, 1⟩ := by
  have hfirst : tokenize "(a >" = .ok ⟨[.operator .openScope, .word "a",
      .operator .outputRedirect], false, false, 1⟩ := by cbv
  have hsecond : tokenize "> b\"c" = .ok ⟨[.operator .outputRedirect, .word "bc"],
      false, true, 0⟩ := by cbv
  obtain ⟨-, hok⟩ := tokenize_lineBreak "(a >" "> b\"c"
  exact ⟨hfirst, hsecond, (hok _ hfirst rfl rfl).2 _ hsecond⟩

end CommandShell
