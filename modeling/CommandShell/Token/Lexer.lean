import CommandShell.Text.Blank
import CommandShell.Token
set_option autoImplicit false

/-!
# Cutting text into tokens

Blanks and comments separate tokens.  A word is a run of direct and quoted segments; a backslash
makes the character after it part of the word.  A text may end inside an escape, a quote or a
scope: `tokenize` then still gives the tokens before that point and says what was left open, so
that a reader can ask for more text and start again.
-/

namespace CommandShell

/-- Why a text has no tokens. -/
inductive TokenizeError where
  /-- A character that begins no token: an ampersand that stands alone. -/
  | unexpected (c : Char)
  deriving DecidableEq

/-- The wording of a tokenizer error. -/
def TokenizeError.message : TokenizeError → String
  | unexpected c => "unexpected " ++ c.toString

/-- The tokens of a text and what was left open where it ended. -/
structure Lexed where
  tokens : List Token
  /-- The text ends right after a backslash. -/
  inEscape : Bool
  /-- The text ends between double quotes. -/
  inQuote : Bool
  /-- Opening less closing parentheses. -/
  depth : Int
  deriving DecidableEq

namespace Lexed

/-- More scopes were opened than closed.  Surplus closing parentheses are for the parser. -/
def inScope (lexed : Lexed) : Bool := 0 < lexed.depth

/-- Nothing was left open. -/
def isComplete (lexed : Lexed) : Bool := !(lexed.inEscape || lexed.inQuote || lexed.inScope)

end Lexed

namespace Lexer

/-- What a character after a backslash stands for.  `e` stands for the digit three. -/
def unescape (c : Char) : Char :=
  if c = 'a' then '\x07'
  else if c = 'e' then '3'
  else if c = 'n' then '\n'
  else if c = 'r' then '\r'
  else if c = 't' then '\t'
  else c

/-- A character that ends a word outside quotes: one that begins an operator or a comment. -/
def endsWord (c : Char) : Bool :=
  c = '#' || c = ';' || c = '&' || c = '|' || c = '<' || c = '>' || c = '(' || c = ')'

/-- A character that stands for itself in a word; between quotes all but the quote do. -/
def isDirect (quoted : Bool) (c : Char) : Bool :=
  c ≠ '"' && (quoted || !(Text.isBlank c || endsWord c))

/-- Drops blanks and comments.  `comment` says that the text starts inside a comment, which runs
through the end of its line. -/
def skip (comment : Bool) : List Char → List Char
  | [] => []
  | c :: rest =>
    if comment then skip (c ≠ '\n') rest
    else if Text.isBlank c then skip false rest
    else if c = '#' then skip true rest
    else c :: rest

theorem length_skip_le (comment : Bool) (cs : List Char) :
    (skip comment cs).length ≤ cs.length := by
  fun_induction skip comment cs <;> simp_all <;> omega

/-- A run of direct characters and escapes. -/
structure Segment where
  /-- The characters of the word so far, the last one first. -/
  word : List Char
  /-- The text after the run. -/
  rest : List Char
  /-- The text ended right after a backslash. -/
  inEscape : Bool

/-- Reads direct characters and escapes onto `word`. -/
def readDirect (quoted : Bool) (word : List Char) : List Char → Segment
  | [] => ⟨word, [], false⟩
  | c :: rest =>
    if c = '\\' then
      match rest with
      | [] => ⟨word, [], true⟩
      | escaped :: rest => readDirect quoted (unescape escaped :: word) rest
    else if isDirect quoted c then readDirect quoted (c :: word) rest
    else ⟨word, c :: rest, false⟩

theorem length_readDirect_le (quoted : Bool) (word cs : List Char) :
    (readDirect quoted word cs).rest.length ≤ cs.length := by
  fun_induction readDirect quoted word cs <;> simp_all <;> omega

/-- A run that starts with a direct character takes that character. -/
theorem length_readDirect_cons_le {quoted : Bool} {c : Char} (hc : isDirect quoted c = true)
    (word rest : List Char) :
    (readDirect quoted word (c :: rest)).rest.length ≤ rest.length := by
  unfold readDirect
  split
  · split
    · simp
    · have := length_readDirect_le quoted (unescape ‹Char› :: word) ‹List Char›
      simp; omega
  · simpa [hc] using length_readDirect_le quoted (c :: word) rest

/-- A word as far as the text has it. -/
structure WordRead where
  /-- The characters of the word, the last one first. -/
  word : List Char
  /-- A segment of the word was read to its end. -/
  found : Bool
  /-- The text after the word. -/
  rest : List Char
  inEscape : Bool
  inQuote : Bool

/-- The word goes on to nothing: neither an escape nor a quote is open. -/
def WordRead.isClosed (read : WordRead) : Bool := !(read.inEscape || read.inQuote)

/-- Reads segments onto `word` while there are any.  Only a finished segment makes a word: a quoted
one is finished by its closing quote, which is all that a run between quotes can stop at. -/
def readWord (word : List Char) (found : Bool) : List Char → WordRead
  | [] => ⟨word, found, [], false, false⟩
  | c :: rest =>
    if c = '"' then
      match _h : readDirect true word rest with
      | ⟨longer, [], inEscape⟩ => ⟨longer, found, [], inEscape, true⟩
      | ⟨longer, _ :: after, _⟩ => readWord longer true after
    else if _hc : isDirect false c = true then
      match _h : readDirect false word (c :: rest) with
      | ⟨longer, after, true⟩ => ⟨longer, found, after, true, false⟩
      | ⟨longer, after, false⟩ => readWord longer true after
    else ⟨word, found, c :: rest, false, false⟩
  termination_by cs => cs.length
  decreasing_by
  · have hle := length_readDirect_le true word rest
    rw [_h] at hle
    simp only [List.length_cons] at hle ⊢
    omega
  · have hle := length_readDirect_cons_le _hc word rest
    rw [_h] at hle
    simp only [List.length_cons] at hle ⊢
    omega

theorem length_readWord_le (word : List Char) (found : Bool) (cs : List Char) :
    (readWord word found cs).rest.length ≤ cs.length := by
  fun_induction readWord word found cs with
  | case1 | case2 | case6 => simp only [List.length_nil, Nat.zero_le, Nat.le_refl]
  | case3 word found rest word' q rest' e h ih =>
    have hle := length_readDirect_le true word rest
    rw [h] at hle
    simp only [List.length_cons] at hle ⊢
    omega
  | case4 word found c rest hq hc word' rest' h =>
    have hle := length_readDirect_le false word (c :: rest)
    rwa [h] at hle
  | case5 word found c rest hq hc word' rest' h ih =>
    have hle := length_readDirect_le false word (c :: rest)
    rw [h] at hle
    exact Nat.le_trans ih hle

/-- A word takes at least one character. -/
theorem length_readWord_lt {word cs : List Char} (h : (readWord word false cs).found = true) :
    (readWord word false cs).rest.length < cs.length := by
  match cs with
  | [] => simp [readWord] at h
  | c :: rest =>
    unfold readWord at h ⊢
    split
    · split
      · simp
      · rename_i hq _ _ _ _ hr
        have := length_readDirect_le true word rest
        rw [hr] at this
        refine Nat.lt_of_le_of_lt (length_readWord_le _ _ _) ?_
        simp at this ⊢
        omega
    · split
      · rename_i hc
        have := length_readDirect_cons_le hc word rest
        split <;> rename_i hr <;> rw [hr] at this
        · simp at this ⊢
          omega
        · refine Nat.lt_of_le_of_lt (length_readWord_le _ _ _) ?_
          simp at this ⊢
          omega
      · simp_all

/-- Cuts the text into tokens, after those of `tokens` (the last one first) and at the given scope
depth. -/
def tokenizeFrom (tokens : List Token) (depth : Int) (cs : List Char) :
    Except TokenizeError Lexed :=
  match _hskip : skip false cs with
  | [] => .ok ⟨tokens.reverse, false, false, depth⟩
  | c :: rest =>
    match _hread : Operator.read? (c :: rest) with
    | some (op, rest) => tokenizeFrom (.operator op :: tokens) (depth + op.scopeChange) rest
    | none =>
      if c = '&' then .error (.unexpected c)
      else
        let read := readWord [] false (c :: rest)
        let tokens :=
          if read.found then .word (String.ofList read.word.reverse) :: tokens else tokens
        if _h : read.found = true ∧ read.isClosed = true then tokenizeFrom tokens depth read.rest
        else .ok ⟨tokens.reverse, read.inEscape, read.inQuote, depth⟩
  termination_by cs.length
  decreasing_by
  · have := length_skip_le false cs
    have := Operator.length_lt_of_read? _hread
    rw [_hskip] at *
    omega
  · have := length_skip_le false cs
    have := length_readWord_lt _h.1
    rw [_hskip] at *
    omega

end Lexer

/-- The tokens of a text. -/
def tokenize (text : String) : Except TokenizeError Lexed :=
  Lexer.tokenizeFrom [] 0 text.toList

end CommandShell
