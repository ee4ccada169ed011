import CommandShell.Token.Lexer
set_option autoImplicit false

/-!
# Tokens in one pass

What the tokens of a text are can be told by an automaton that takes one character after the other
and never looks ahead.  It is in normal mode, in a comment or between quotes, and the character
before may have been a backslash that waits for the next one.  An operator that could become a
longer one, and a word, are finished by the first character that is no part of them.

Cutting a text into tokens agrees with this scanner.  So whether a text has tokens, what it leaves
open and which tokens it has depend on its characters one at a time.
-/

namespace CommandShell

/-! ## The scanner -/

/-- The modes of a scanner. -/
inductive ScanMode where
  | normal
  /-- After a `#`, through the end of the line. -/
  | comment
  /-- Between double quotes. -/
  | quote
  deriving DecidableEq

namespace Scanner

/-- Where a scanner stands.  The characters of a word are those so far, the last one first. -/
inductive Place where
  /-- No token has begun. -/
  | between
  | comment
  /-- After an ampersand that may be the first of a pair; the next two are of the same kind. -/
  | ampersand
  | bar
  | greater
  | word (characters : List Char)
  /-- In a quoted part of a word. -/
  | quote (characters : List Char)
  /-- In a word after a backslash. -/
  | escape (quoted : Bool) (characters : List Char)
  deriving DecidableEq

namespace Place

/-- The mode of the scanner. -/
def mode : Place → ScanMode
  | comment => .comment
  | quote _ | escape true _ => .quote
  | between | ampersand | bar | greater | word _ | escape false _ => .normal

/-- The character before was a backslash that makes the next one part of a word. -/
def isPending : Place → Bool
  | escape .. => true
  | _ => false

/-- The characters that end a word in normal mode, blanks left out. -/
def separators : List Char := ['#', ';', '&', '|', '<', '>', '(', ')']

/-- The place in a word, in a quoted part of it or not. -/
def inWord (quoted : Bool) (characters : List Char) : Place :=
  if quoted then quote characters else word characters

/-- Where a quoted part of a word goes on to with a character. -/
def inQuote (characters : List Char) (c : Char) : Place :=
  if c = '"' then word characters
  else if c = '\\' then escape true characters
  else quote (c :: characters)

/-- Where a word in normal mode goes on to with a character; none if the character ends it. -/
def lengthen (characters : List Char) (c : Char) : Option Place :=
  if c = '"' then some (quote characters)
  else if c = '\\' then some (escape false characters)
  else if Text.isBlank c || separators.contains c then none
  else some (word (c :: characters))

end Place

end Scanner

/-- A scanner in its text. -/
structure Scanner where
  place : Scanner.Place := .between
  /-- Opening less closing parentheses. -/
  depth : Int := 0
  /-- The finished tokens, the last one first. -/
  tokens : List Token := []
  /-- There was an ampersand that is no part of a pair. -/
  stray : Bool := false
  deriving DecidableEq

namespace Scanner

/-- Finishes a token. -/
def emit (s : Scanner) (token : Token) : Scanner :=
  { s with place := .between, tokens := token :: s.tokens }

/-- Finishes the token that has begun, if there is one and it is not in the middle of a quote or an
escape. -/
def cut (s : Scanner) : Scanner :=
  match s.place with
  | .ampersand => { s with place := .between, stray := true }
  | .bar => s.emit (.operator .pipe)
  | .greater => s.emit (.operator .outputRedirect)
  | .word characters => s.emit (.word (String.ofList characters.reverse))
  | .between | .comment | .quote _ | .escape .. => s

/-- Takes a character between two tokens. -/
def begin (s : Scanner) (c : Char) : Scanner :=
  match Place.lengthen [] c with
  | some place => { s with place }
  | none =>
    match c with
    | '#' => { s with place := .comment }
    | '&' => { s with place := .ampersand }
    | '|' => { s with place := .bar }
    | '>' => { s with place := .greater }
    | ';' => s.emit (.operator .sequence)
    | '<' => s.emit (.operator .inputRedirect)
    | '(' => { s.emit (.operator .openScope) with depth := s.depth + 1 }
    | ')' => { s.emit (.operator .closeScope) with depth := s.depth - 1 }
    | _ => s

/-- Takes a character. -/
def step (s : Scanner) (c : Char) : Scanner :=
  match s.place with
  | .between => s.begin c
  | .comment => { s with place := if c = '\n' then .between else .comment }
  | .ampersand => if c = '&' then s.emit (.operator .conjunction) else s.cut.begin c
  | .bar => if c = '|' then s.emit (.operator .disjunction) else s.cut.begin c
  | .greater => if c = '>' then s.emit (.operator .appendRedirect) else s.cut.begin c
  | .word characters =>
    match Place.lengthen characters c with
    | some place => { s with place }
    | none => s.cut.begin c
  | .quote characters => { s with place := Place.inQuote characters c }
  | .escape quoted characters => { s with place := .inWord quoted (Lexer.unescape c :: characters) }

/-- Takes the characters of a text. -/
def run (s : Scanner) (cs : List Char) : Scanner := cs.foldl step s

/-- Takes the characters of a text and finishes the last token. -/
def scan (s : Scanner) (cs : List Char) : Scanner := (s.run cs).cut

/-! ## Runs of characters -/

@[simp] theorem run_nil (s : Scanner) : s.run [] = s := rfl

@[simp] theorem run_cons (s : Scanner) (c : Char) (cs : List Char) :
    s.run (c :: cs) = (s.step c).run cs := rfl

theorem run_append (s : Scanner) (cs cs' : List Char) : s.run (cs ++ cs') = (s.run cs).run cs' :=
  List.foldl_append

theorem scan_append (s : Scanner) (cs cs' : List Char) :
    s.scan (cs ++ cs') = (s.run cs).scan cs' := congrArg cut (s.run_append cs cs')

theorem scan_cons (s : Scanner) (c : Char) (cs : List Char) :
    s.scan (c :: cs) = (s.step c).scan cs := rfl

/-- A character that does not lengthen the token that has begun finishes it first. -/
theorem scan_eq_scan_cut {s : Scanner} {cs : List Char} (hplace : s.cut.place = .between)
    (hends : ∀ c rest, cs = c :: rest → s.step c = s.cut.begin c) : s.scan cs = s.cut.scan cs := by
  cases cs with
  | nil =>
    show s.cut = s.cut.cut
    conv => rhs; rw [cut, hplace]
  | cons c rest =>
    have hstep : s.cut.step c = s.cut.begin c := by rw [step, hplace]
    rw [scan_cons, scan_cons, hstep, hends c rest rfl]

/-! ## Stray ampersands -/

/-- The scanner is in normal mode, and an ampersand would begin a new operator there. -/
def Expects (s : Scanner) : Prop :=
  s.place.mode = .normal ∧ s.place.isPending = false ∧ s.place ≠ .ampersand

/-- The scanner meets an ampersand in normal mode that is neither the second one of a pair nor
followed by another one. -/
def MeetsStray (s : Scanner) (cs : List Char) : Prop :=
  ∃ before after, cs = before ++ '&' :: after ∧ (s.run before).Expects ∧
    ∀ rest, after ≠ '&' :: rest

theorem not_meetsStray_nil (s : Scanner) : ¬ s.MeetsStray [] := by
  rintro ⟨before, after, heq, -⟩
  exact List.append_ne_nil_of_right_ne_nil before (List.cons_ne_nil _ _) heq.symm

theorem meetsStray_cons {s : Scanner} {c : Char} {cs : List Char} :
    s.MeetsStray (c :: cs) ↔
      (c = '&' ∧ s.Expects ∧ ∀ rest, cs ≠ '&' :: rest) ∨ (s.step c).MeetsStray cs := by
  constructor
  · rintro ⟨before, after, heq, hexpects, hsingle⟩
    cases before with
    | nil =>
      obtain ⟨rfl, rfl⟩ := List.cons.inj heq
      exact Or.inl ⟨rfl, hexpects, hsingle⟩
    | cons first before =>
      obtain ⟨rfl, rfl⟩ := List.cons.inj heq
      exact Or.inr ⟨before, after, rfl, hexpects, hsingle⟩
  · rintro (⟨rfl, hexpects, hsingle⟩ | ⟨before, after, rfl, hexpects, hsingle⟩)
    · exact ⟨[], cs, rfl, hexpects, hsingle⟩
    · exact ⟨c :: before, after, rfl, hexpects, hsingle⟩

theorem lengthen_ne_ampersand (characters : List Char) (c : Char) :
    Place.lengthen characters c ≠ some .ampersand := by
  unfold Place.lengthen
  repeat' split
  all_goals nofun

theorem begin_stray (s : Scanner) (c : Char) : (s.begin c).stray = s.stray := by
  unfold begin
  split
  · rfl
  · split <;> rfl

theorem begin_place_iff {s : Scanner} (h : s.place = .between) {c : Char} :
    (s.begin c).place = .ampersand ↔ c = '&' := by
  constructor
  · unfold begin
    split
    · rename_i place hplace
      exact fun heq => absurd (hplace.trans (congrArg some heq)) (lengthen_ne_ampersand [] c)
    · split <;> simp [emit, h]
  · rintro rfl
    rfl

theorem cut_stray {s : Scanner} : s.cut.stray = true ↔ s.stray = true ∨ s.place = .ampersand := by
  unfold cut
  split <;> simp_all [emit]

theorem step_place_iff {s : Scanner} {c : Char} :
    (s.step c).place = .ampersand ↔ c = '&' ∧ s.Expects := by
  unfold step Expects
  split <;> rename_i hplace <;> rw [hplace]
  · simp [begin_place_iff hplace, Place.mode, Place.isPending]
  · by_cases hc : c = '\n' <;> simp [hc, Place.mode]
  · by_cases hc : c = '&'
    · simp [hc, emit]
    · simp [hc, begin_place_iff, cut, hplace]
  · by_cases hc : c = '|'
    · simp [hc, emit]
    · simp [hc, begin_place_iff, cut, hplace, emit, Place.mode, Place.isPending]
  · by_cases hc : c = '>'
    · simp [hc, emit]
    · simp [hc, begin_place_iff, cut, hplace, emit, Place.mode, Place.isPending]
  · rename_i characters
    split
    · rename_i place hlengthen
      have hampersand : c ≠ '&' := by
        rintro rfl
        cases hlengthen
      have hplace' : place ≠ .ampersand := by
        rintro rfl
        exact lengthen_ne_ampersand characters c hlengthen
      simp [hampersand, hplace']
    · simp [begin_place_iff, cut, hplace, emit, Place.mode, Place.isPending]
  · rename_i characters
    by_cases hquote : c = '"' <;> by_cases hbackslash : c = '\\' <;>
      simp [Place.inQuote, hquote, hbackslash, Place.mode]
  · rename_i quoted characters
    cases quoted <;> simp [Place.inWord, Place.mode, Place.isPending]

theorem step_stray_iff {s : Scanner} {c : Char} :
    (s.step c).stray = true ↔ s.stray = true ∨ (s.place = .ampersand ∧ c ≠ '&') := by
  unfold step
  split <;> rename_i hplace <;> try split
  all_goals simp_all [begin_stray, emit, cut_stray]

/-- A scanner has met a stray ampersand if it did so before, or its last ampersand turns out to be
one, or it meets one later. -/
theorem scan_stray_iff {s : Scanner} {cs : List Char} :
    (s.scan cs).stray = true ↔
      s.stray = true ∨ (s.place = .ampersand ∧ ∀ rest, cs ≠ '&' :: rest) ∨ s.MeetsStray cs := by
  induction cs generalizing s with
  | nil => simp [scan, cut_stray, not_meetsStray_nil]
  | cons c cs ih =>
    rw [scan_cons, ih, step_stray_iff, step_place_iff, meetsStray_cons]
    have hhead : (∀ rest, c :: cs ≠ '&' :: rest) ↔ c ≠ '&' := by simp
    simp only [hhead, and_assoc, or_assoc]

/-- A stray ampersand is not forgotten. -/
theorem scan_stray {s : Scanner} (h : s.stray = true) (cs : List Char) :
    (s.scan cs).stray = true := scan_stray_iff.2 (Or.inl h)

/-! ## Blanks, comments and operators -/

theorem begin_blank (s : Scanner) {c : Char} (h : Text.isBlank c = true) : s.begin c = s := by
  have hquote : c ≠ '"' := by rintro rfl; cases h
  have hbackslash : c ≠ '\\' := by rintro rfl; cases h
  have hlengthen : Place.lengthen [] c = none := by
    rw [Place.lengthen, if_neg hquote, if_neg hbackslash, h, Bool.true_or, if_pos rfl]
  unfold begin
  rw [hlengthen]
  dsimp only
  split <;> first | cases h | rfl

variable (tokens : List Token) (depth : Int)

/-- A scanner that has not met a stray ampersand. -/
def standing (place : Place) : Scanner := { place, depth, tokens }

/-- The place of a scanner between two tokens, in a comment there or not. -/
def skipping (comment : Bool) : Place := if comment then .comment else .between

/-- Blanks and comments change nothing; a text may end in a comment. -/
theorem run_skip (comment : Bool) (cs : List Char) :
    ∃ comment', (standing tokens depth (skipping comment)).run cs
        = (standing tokens depth (skipping comment')).run (Lexer.skip comment cs) ∧
      (Lexer.skip comment cs ≠ [] → comment' = false) := by
  fun_induction Lexer.skip comment cs with
  | case1 comment => exact ⟨comment, rfl, fun h => absurd rfl h⟩
  | case2 c rest ih =>
    obtain ⟨comment', hrun, hended⟩ := ih
    refine ⟨comment', ?_, hended⟩
    rw [← hrun, run_cons]
    by_cases hc : c = '\n' <;> simp [standing, skipping, step, hc]
  | case3 comment c rest hcomment hblank ih =>
    obtain rfl := Bool.eq_false_iff.2 hcomment
    obtain ⟨comment', hrun, hended⟩ := ih
    refine ⟨comment', ?_, hended⟩
    rw [← hrun, run_cons]
    exact congrArg (run · rest) (begin_blank _ hblank)
  | case4 comment rest hcomment hblank ih =>
    obtain rfl := Bool.eq_false_iff.2 hcomment
    obtain ⟨comment', hrun, hended⟩ := ih
    exact ⟨comment', hrun, hended⟩
  | case5 comment c rest hcomment =>
    obtain rfl := Bool.eq_false_iff.2 hcomment
    exact ⟨false, rfl, fun _ => rfl⟩

/-- Blanks and comments before a token do not matter. -/
theorem scan_skip {cs : List Char} (h : Lexer.skip false cs ≠ []) :
    (standing tokens depth .between).scan cs
      = (standing tokens depth .between).scan (Lexer.skip false cs) := by
  obtain ⟨comment, hrun, hended⟩ := run_skip tokens depth false cs
  rw [hended h] at hrun
  exact congrArg cut hrun

/-- What blanks and comments are dropped from begins with a token. -/
theorem skip_eq_cons {cs rest : List Char} {c : Char} {comment : Bool}
    (h : Lexer.skip comment cs = c :: rest) : Text.isBlank c = false ∧ c ≠ '#' := by
  fun_induction Lexer.skip comment cs with
  | case1 => cases h
  | case2 c rest ih => exact ih h
  | case3 comment c rest hcomment hblank ih => exact ih h
  | case4 comment rest hcomment hblank ih => exact ih h
  | case5 comment c rest hcomment hblank hhash =>
    cases h
    exact ⟨Bool.eq_false_iff.2 hblank, hhash⟩

theorem scan_ampersand {cs : List Char} (h : ∀ rest, cs ≠ '&' :: rest) :
    ((standing tokens depth .ampersand).scan cs).stray = true := by
  rw [scan_eq_scan_cut rfl]
  · exact scan_stray rfl cs
  · rintro c rest rfl
    exact if_neg fun hc => h rest (by rw [hc])

theorem scan_bar {cs : List Char} (h : ∀ rest, cs ≠ '|' :: rest) :
    (standing tokens depth .bar).scan cs
      = (standing (.operator .pipe :: tokens) depth .between).scan cs := by
  rw [scan_eq_scan_cut rfl]
  · rfl
  · rintro c rest rfl
    exact if_neg fun hc => h rest (by rw [hc])

theorem scan_greater {cs : List Char} (h : ∀ rest, cs ≠ '>' :: rest) :
    (standing tokens depth .greater).scan cs
      = (standing (.operator .outputRedirect :: tokens) depth .between).scan cs := by
  rw [scan_eq_scan_cut rfl]
  · rfl
  · rintro c rest rfl
    exact if_neg fun hc => h rest (by rw [hc])

/-- The scanner finds the operator at the front of a text. -/
theorem scan_operator {cs rest : List Char} {op : Operator}
    (h : Operator.read? cs = some (op, rest)) :
    (standing tokens depth .between).scan cs
      = (standing (.operator op :: tokens) (depth + op.scopeChange) .between).scan rest := by
  unfold Operator.read? at h
  split at h <;> cases h <;> simp only [Operator.scopeChange, Int.add_zero]
  · rfl
  · rfl
  · rfl
  · exact scan_bar tokens depth ‹_›
  · rfl
  · rfl
  · exact scan_greater tokens depth ‹_›
  · rfl
  · rfl

/-! ## Words -/

theorem separators_contains (c : Char) : Place.separators.contains c = Lexer.endsWord c := by
  simp [Place.separators, Lexer.endsWord, Bool.or_assoc]

/-- A word is lengthened by a quote, by a backslash and by a direct character. -/
theorem lengthen_direct (characters : List Char) {c : Char}
    (hdirect : Lexer.isDirect false c = true) (hbackslash : c ≠ '\\') :
    Place.lengthen characters c = some (.word (c :: characters)) := by
  simp only [Lexer.isDirect, Bool.false_or, Bool.and_eq_true, decide_eq_true_eq,
    Bool.not_eq_true'] at hdirect
  rw [Place.lengthen, if_neg hdirect.1, if_neg hbackslash, separators_contains, hdirect.2]
  rfl

/-- Any other character ends it. -/
theorem lengthen_eq_none (characters : List Char) {c : Char} (hquote : c ≠ '"')
    (hdirect : Lexer.isDirect false c = false) : Place.lengthen characters c = none := by
  have hbackslash : c ≠ '\\' := by
    rintro rfl
    cases hdirect
  simp only [Lexer.isDirect, Bool.false_or, hquote, ne_eq, not_false_eq_true, decide_true,
    Bool.true_and, Bool.not_eq_false'] at hdirect
  rw [Place.lengthen, if_neg hquote, if_neg hbackslash, separators_contains, hdirect]
  rfl

theorem step_inWord_backslash (quoted : Bool) (word : List Char) :
    (standing tokens depth (.inWord quoted word)).step '\\'
      = standing tokens depth (.escape quoted word) := by
  cases quoted <;> rfl

theorem step_inWord_direct {quoted : Bool} (word : List Char) {c : Char}
    (hdirect : Lexer.isDirect quoted c = true) (hbackslash : c ≠ '\\') :
    (standing tokens depth (.inWord quoted word)).step c
      = standing tokens depth (.inWord quoted (c :: word)) := by
  cases quoted with
  | false => simp [standing, step, Place.inWord, lengthen_direct word hdirect hbackslash]
  | true =>
    have hquote : c ≠ '"' := by
      rintro rfl
      cases hdirect
    simp [standing, step, Place.inWord, Place.inQuote, hquote, hbackslash]

/-- Where a run of direct characters and escapes ends. -/
def segmentPlace (quoted : Bool) (read : Lexer.Segment) : Place :=
  if read.inEscape then .escape quoted read.word else .inWord quoted read.word

theorem run_readDirect (quoted : Bool) (word cs : List Char) :
    (standing tokens depth (.inWord quoted word)).run cs
      = (standing tokens depth (segmentPlace quoted (Lexer.readDirect quoted word cs))).run
          (Lexer.readDirect quoted word cs).rest := by
  fun_induction Lexer.readDirect quoted word cs with
  | case1 word => rfl
  | case2 word => exact step_inWord_backslash tokens depth quoted word
  | case3 word escaped rest ih =>
    rw [run_cons, step_inWord_backslash, ← ih]
    rfl
  | case4 word c rest hbackslash hdirect ih =>
    rw [run_cons, step_inWord_direct tokens depth word hdirect hbackslash, ih]
  | case5 word c rest hbackslash hdirect => rfl

/-- A run of direct characters and escapes ends at the end of the text or at a character that is
not direct. -/
theorem readDirect_rest (quoted : Bool) (word cs : List Char) :
    ((Lexer.readDirect quoted word cs).inEscape = true →
        (Lexer.readDirect quoted word cs).rest = []) ∧
      ∀ c rest, (Lexer.readDirect quoted word cs).rest = c :: rest →
        Lexer.isDirect quoted c = false := by
  fun_induction Lexer.readDirect quoted word cs with
  | case1 | case2 => simp
  | case3 word escaped rest ih => exact ih
  | case4 word c rest hbackslash hdirect ih => exact ih
  | case5 word c rest hbackslash hdirect =>
    refine ⟨fun hescape => absurd hescape Bool.false_ne_true, ?_⟩
    rintro _ _ ⟨⟩
    exact Bool.eq_false_iff.2 hdirect

/-- A quoted part of a word is read up to the closing quote. -/
theorem readDirect_quoted {word rest longer after : List Char} {c : Char} {inEscape : Bool}
    (h : Lexer.readDirect true word rest = ⟨longer, c :: after, inEscape⟩) :
    inEscape = false ∧ c = '"' := by
  obtain ⟨hescape, hstop⟩ := readDirect_rest true word rest
  rw [h] at hescape hstop
  refine ⟨Bool.eq_false_iff.2 fun hin => List.cons_ne_nil _ _ (hescape hin), ?_⟩
  simpa [Lexer.isDirect] using hstop c after rfl

/-- Where the reading of a word ends. -/
def wordPlace (read : Lexer.WordRead) : Place :=
  if read.inEscape then .escape read.inQuote read.word else .inWord read.inQuote read.word

theorem run_readWord (word : List Char) (found : Bool) (cs : List Char) :
    (standing tokens depth (.word word)).run cs
      = (standing tokens depth (wordPlace (Lexer.readWord word found cs))).run
          (Lexer.readWord word found cs).rest := by
  fun_induction Lexer.readWord word found cs with
  | case1 word found => rfl
  | case2 word found rest longer inEscape h =>
    have hread := run_readDirect tokens depth true word rest
    rw [h] at hread
    exact hread
  | case3 word found rest longer c after inEscape h ih =>
    have hread := run_readDirect tokens depth true word rest
    obtain ⟨rfl, rfl⟩ := readDirect_quoted h
    rw [h] at hread
    exact hread.trans ih
  | case4 word found c rest hquote hdirect longer after h =>
    have hread := run_readDirect tokens depth false word (c :: rest)
    rw [h] at hread
    exact hread
  | case5 word found c rest hquote hdirect longer after h ih =>
    have hread := run_readDirect tokens depth false word (c :: rest)
    rw [h] at hread
    exact hread.trans ih
  | case6 word found c rest hquote hdirect => rfl

/-- A word that is left open reaches to the end of the text, and any other one to its end or to a
character that ends the word. -/
theorem readWord_rest (word : List Char) (found : Bool) (cs : List Char) :
    ((Lexer.readWord word found cs).isClosed = false → (Lexer.readWord word found cs).rest = []) ∧
      ∀ c rest, (Lexer.readWord word found cs).rest = c :: rest →
        c ≠ '"' ∧ Lexer.isDirect false c = false := by
  fun_induction Lexer.readWord word found cs with
  | case1 | case2 => simp
  | case3 word found rest longer c after inEscape h ih => exact ih
  | case4 word found c rest hquote hdirect longer after h =>
    obtain ⟨hescape, -⟩ := readDirect_rest false word (c :: rest)
    rw [h] at hescape
    obtain rfl : after = [] := hescape rfl
    simp
  | case5 word found c rest hquote hdirect longer after h ih => exact ih
  | case6 word found c rest hquote hdirect =>
    refine ⟨fun hopen => absurd hopen Bool.noConfusion, ?_⟩
    rintro _ _ ⟨⟩
    exact ⟨hquote, Bool.eq_false_iff.2 hdirect⟩

/-- Once a segment has been finished there is a word. -/
theorem readWord_found (word cs : List Char) : (Lexer.readWord word true cs).found = true := by
  generalize hfound : true = found
  fun_induction Lexer.readWord word found cs <;> simp_all

/-- What is neither blank nor the beginning of a comment or an operator begins a word. -/
theorem begins_word {c : Char} {rest : List Char} (hblank : Text.isBlank c = false)
    (hhash : c ≠ '#') (hread : Operator.read? (c :: rest) = none) (hampersand : c ≠ '&') :
    c = '"' ∨ Lexer.isDirect false c = true := by
  have hends : Lexer.endsWord c = false := by
    refine Bool.eq_false_iff.2 fun hends => ?_
    simp only [Lexer.endsWord, Bool.or_eq_true, decide_eq_true_eq, hhash, hampersand, false_or,
      or_false] at hends
    unfold Operator.read? at hread
    split at hread <;> simp_all
  rw [Lexer.isDirect, hblank, hends]
  by_cases hquote : c = '"'
  · exact Or.inl hquote
  · exact Or.inr (by simp [hquote])

section Word

variable {c : Char} {rest : List Char} (hstart : c = '"' ∨ Lexer.isDirect false c = true)

include hstart

/-- A word that is not left open has a finished segment. -/
theorem readWord_found_of_isClosed {word : List Char}
    (hclosed : (Lexer.readWord word false (c :: rest)).isClosed = true) :
    (Lexer.readWord word false (c :: rest)).found = true := by
  revert hclosed
  generalize hcs : c :: rest = cs
  generalize hfound : false = found
  fun_induction Lexer.readWord word found cs with
  | case1 | case2 | case4 => simp_all [Lexer.WordRead.isClosed]
  | case3 | case5 => exact fun _ => readWord_found _ _
  | case6 => simp_all

/-- Between two tokens the scanner begins a word. -/
theorem run_word :
    (standing tokens depth .between).run (c :: rest)
      = (standing tokens depth (wordPlace (Lexer.readWord [] false (c :: rest)))).run
          (Lexer.readWord [] false (c :: rest)).rest := by
  have hlengthen : ∃ place, Place.lengthen [] c = some place := by
    by_cases hbackslash : c = '\\'
    · exact ⟨.escape false [], by rw [hbackslash]; rfl⟩
    · rcases hstart with rfl | hdirect
      · exact ⟨.quote [], rfl⟩
      · exact ⟨_, lengthen_direct [] hdirect hbackslash⟩
  obtain ⟨place, hplace⟩ := hlengthen
  rw [← run_readWord, run_cons, run_cons]
  simp [standing, step, begin, hplace]

theorem scan_word_closed (hclosed : (Lexer.readWord [] false (c :: rest)).isClosed = true) :
    (standing tokens depth .between).scan (c :: rest)
      = (standing (.word (String.ofList (Lexer.readWord [] false (c :: rest)).word.reverse)
          :: tokens) depth .between).scan (Lexer.readWord [] false (c :: rest)).rest := by
  have hplace : wordPlace (Lexer.readWord [] false (c :: rest))
      = .word (Lexer.readWord [] false (c :: rest)).word := by
    simp only [Lexer.WordRead.isClosed, Bool.not_eq_true', Bool.or_eq_false_iff] at hclosed
    rw [wordPlace, hclosed.1, hclosed.2]
    rfl
  obtain ⟨-, hends⟩ := readWord_rest [] false (c :: rest)
  rw [scan, run_word tokens depth hstart, hplace]
  refine scan_eq_scan_cut rfl fun c' rest' heq => ?_
  obtain ⟨hquote, hdirect⟩ := hends c' rest' heq
  simp only [standing, step, lengthen_eq_none _ hquote hdirect]

theorem scan_word_open (hopen : (Lexer.readWord [] false (c :: rest)).isClosed = false) :
    (standing tokens depth .between).scan (c :: rest)
      = standing tokens depth (wordPlace (Lexer.readWord [] false (c :: rest))) := by
  rw [scan, run_word tokens depth hstart, (readWord_rest [] false (c :: rest)).1 hopen, run_nil]
  generalize Lexer.readWord [] false (c :: rest) = read at hopen
  obtain ⟨word, found, rest', inEscape, inQuote⟩ := read
  cases inEscape with
  | true => rfl
  | false =>
    cases inQuote with
    | true => rfl
    | false => cases hopen

end Word

/-! ## Agreement -/

/-- What came of cutting a text into tokens agrees with the scanner at the end of the text. -/
def Agrees (result : Except TokenizeError Lexed) (s : Scanner) : Prop :=
  match result with
  | .error e => e = .unexpected '&' ∧ s.stray = true
  | .ok lexed =>
    s.stray = false ∧ lexed.inQuote = decide (s.place.mode = .quote) ∧
      lexed.inEscape = s.place.isPending ∧ lexed.depth = s.depth ∧
      (s.place.mode ≠ .quote → s.place.isPending = false → lexed.tokens = s.tokens.reverse)

/-- A text that ends in a word that is left open ends in a quote or in an escape. -/
theorem agrees_wordPlace (read : Lexer.WordRead) (hopen : read.isClosed = false)
    (tokens' : List Token) :
    Agrees (.ok ⟨tokens', read.inEscape, read.inQuote, depth⟩)
      (standing tokens depth (wordPlace read)) := by
  obtain ⟨word, found, rest, inEscape, inQuote⟩ := read
  cases inEscape with
  | true => cases inQuote <;> exact ⟨rfl, rfl, rfl, rfl, nofun⟩
  | false =>
    cases inQuote with
    | true => exact ⟨rfl, rfl, rfl, rfl, fun h => absurd rfl h⟩
    | false => cases hopen

theorem tokenizeFrom_agrees (cs : List Char) :
    Agrees (Lexer.tokenizeFrom tokens depth cs) ((standing tokens depth .between).scan cs) := by
  fun_induction Lexer.tokenizeFrom tokens depth cs with
  | case1 tokens depth cs hskip =>
    obtain ⟨comment, hrun, -⟩ := run_skip tokens depth false cs
    rw [hskip] at hrun
    have hscan : (standing tokens depth .between).scan cs
        = standing tokens depth (skipping comment) := by
      refine (congrArg cut hrun).trans ?_
      cases comment <;> rfl
    rw [hscan]
    cases comment <;> exact ⟨rfl, rfl, rfl, rfl, fun _ _ => rfl⟩
  | case2 tokens depth cs c rest hskip op rest' hread ih =>
    rw [scan_skip tokens depth (by simp [hskip]), hskip, scan_operator tokens depth hread]
    exact ih
  | case3 tokens depth cs rest hskip hread =>
    rw [scan_skip tokens depth (by simp [hskip]), hskip]
    refine ⟨rfl, scan_ampersand tokens depth ?_⟩
    rintro rest' rfl
    cases hread
  | case4 tokens depth cs c rest hskip hread hampersand read tokens' hword ih =>
    obtain ⟨hblank, hhash⟩ := skip_eq_cons hskip
    have hstart := begins_word hblank hhash hread hampersand
    rw [scan_skip tokens depth (by simp [hskip]), hskip,
      scan_word_closed tokens depth hstart hword.2]
    rw [show tokens' = _ from dif_pos hword.1] at ih ⊢
    exact ih
  | case5 tokens depth cs c rest hskip hread hampersand read tokens' hword =>
    obtain ⟨hblank, hhash⟩ := skip_eq_cons hskip
    have hstart := begins_word hblank hhash hread hampersand
    have hopen : read.isClosed = false := Bool.eq_false_iff.2 fun hclosed =>
      hword ⟨readWord_found_of_isClosed hstart hclosed, hclosed⟩
    rw [scan_skip tokens depth (by simp [hskip]), hskip, scan_word_open tokens depth hstart hopen]
    exact agrees_wordPlace tokens depth read hopen tokens'.reverse

end Scanner

end CommandShell
