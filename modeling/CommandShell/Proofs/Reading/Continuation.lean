import CommandShell.Proofs.Lexing.Scanner
import CommandShell.Shell
set_option autoImplicit false

/-!
# Joined lines

A line that ends in a backslash is joined with the next one, and the backslash is dropped.  Wherever
a text is neither after a backslash nor in a comment, one more backslash begins an escape, be it in a
word, in a quote or between operators; so the reader finds it there, and what it keeps is the text
without it.  A command can therefore be cut into lines at any such place.
-/

namespace CommandShell

/-! ## A backslash at the end of a text -/

namespace Scanner

variable {s : Scanner}

/-- A backslash begins an escape just where it neither is escaped itself nor stands in a comment. -/
theorem step_backslash_isPending :
    (s.step '\\').place.isPending = true ↔
      s.place.isPending = false ∧ s.place.mode ≠ .comment := by
  have hbegin : ∀ s : Scanner, s.begin '\\' = { s with place := .escape false [] } := fun _ => rfl
  cases hplace : s.place with
  | escape quoted characters =>
    cases quoted <;> simp [step, hplace, Place.inWord, Place.isPending]
  | _ => simp [step, hplace, hbegin, cut, emit, Place.isPending, Place.mode, Place.lengthen,
      Place.inQuote]

/-- Finishing the last token neither begins nor ends an escape. -/
theorem cut_isPending (s : Scanner) : s.cut.place.isPending = s.place.isPending := by
  unfold cut
  split <;> simp_all [emit, Place.isPending]

/-- A backslash at the end makes no ampersand stray that was none before. -/
theorem scan_backslash_stray (cs : List Char) :
    (s.scan (cs ++ ['\\'])).stray = (s.scan cs).stray := by
  have hplace : ((s.run cs).step '\\').place ≠ .ampersand := by
    intro hampersand
    exact absurd (step_place_iff.1 hampersand).1 (by decide)
  rw [Bool.eq_iff_iff]
  rw [scan_append, scan_cons, scan, run_nil, cut_stray, step_stray_iff, scan, cut_stray]
  simp [hplace]

end Scanner

/-- A further line can be joined to the text by a backslash: it has tokens so far, and it ends
neither right after a backslash nor in a comment.  It may end in a quote, in a word or in a scope. -/
def TakesContinuation (text : String) : Prop :=
  (∃ lexed, tokenize text = .ok lexed ∧ lexed.inEscape = false) ∧
    (Scanner.run {} text.toList).place.mode ≠ .comment

/-- Whether a text has tokens, and ends in an escape, is what the scanner says. -/
theorem exists_tokenize_iff {text : String} {inEscape : Bool} :
    (∃ lexed, tokenize text = .ok lexed ∧ lexed.inEscape = inEscape) ↔
      (Scanner.scan {} text.toList).stray = false ∧
        (Scanner.run {} text.toList).place.isPending = inEscape := by
  have hagrees : Scanner.Agrees (tokenize text) (Scanner.scan {} text.toList) :=
    Scanner.tokenizeFrom_agrees [] 0 text.toList
  have hpending : (Scanner.scan {} text.toList).place.isPending
      = (Scanner.run {} text.toList).place.isPending := Scanner.cut_isPending _
  cases hresult : tokenize text with
  | error e =>
    rw [hresult] at hagrees
    obtain ⟨-, hstray⟩ := hagrees
    simp [hstray]
  | ok lexed =>
    rw [hresult] at hagrees
    obtain ⟨hstray, -, hescape, -⟩ := hagrees
    rw [← hpending, ← hescape]
    simp [hstray]

/-- A backslash behind a text begins an escape just where a line can be joined. -/
theorem takesContinuation_iff {text : String} :
    TakesContinuation text ↔
      ∃ lexed, tokenize (text ++ "\\") = .ok lexed ∧ lexed.inEscape = true := by
  have hlist : (text ++ "\\").toList = text.toList ++ ['\\'] := by simp
  rw [TakesContinuation, exists_tokenize_iff, exists_tokenize_iff, hlist,
    Scanner.scan_backslash_stray, Scanner.run_append, Scanner.run_cons, Scanner.run_nil,
    Scanner.step_backslash_isPending, and_assoc]

/-! ## Lines that are joined -/

/-- A text that ends in an escape asks for the next line to be joined, whatever else is open. -/
theorem Lexed.continuation_of_inEscape {lexed : Lexed} (h : lexed.inEscape = true) :
    lexed.continuation = some .joinEscaped := by
  simp [Lexed.continuation, Lexed.isComplete, h]

/-- Joining drops the backslash and nothing else. -/
theorem Continuation.extend_joinEscaped (text : String) :
    Continuation.joinEscaped.extend (text ++ "\\") = text := by
  simp [Continuation.extend]

/-- A line with a backslash at its end leaves the text before the backslash. -/
theorem TakesContinuation.after {text piece : String} (h : TakesContinuation (text ++ piece))
    (continued : Bool) :
    Progress.after text continued (some (.line (piece ++ "\\"))) = .unfinished (text ++ piece) := by
  obtain ⟨lexed, htokenize, hends⟩ := takesContinuation_iff.1 h
  have hcontinuation := Lexed.continuation_of_inEscape hends
  rw [Progress.after, ← String.append_assoc, htokenize]
  dsimp only
  rw [hcontinuation]
  dsimp only
  rw [Continuation.extend_joinEscaped]

/-- What comes of a line depends on the text it makes with what was read before, and not on where
that text was cut. -/
theorem readCommandFrom_line {text text' line line' : String} (h : text ++ line = text' ++ line')
    (continued continued' : Bool) (items : List SourceItem) :
    readCommandFrom text continued (.line line :: items)
      = readCommandFrom text' continued' (.line line' :: items) := by
  rw [readCommandFrom, readCommandFrom, Progress.after, Progress.after, h]

/-- The lines of a text that has been cut: all pieces but the last have a backslash at their end. -/
def joinableLines (pieces : List String) (last : String) : List SourceItem :=
  pieces.map (fun piece => .line (piece ++ "\\")) ++ [.line last]

/-- Read onto a text, such lines come to what they come to in one piece. -/
theorem readCommandFrom_joinableLines (pieces : List String) (last text : String) (continued : Bool)
    (items : List SourceItem)
    (h : ∀ k < pieces.length, TakesContinuation (text ++ String.join (pieces.take (k + 1)))) :
    readCommandFrom text continued (joinableLines pieces last ++ items)
      = readCommandFrom text continued (.line (String.join pieces ++ last) :: items) := by
  induction pieces generalizing text continued with
  | nil => exact readCommandFrom_line (by simp) continued continued items
  | cons piece pieces ih =>
    have hfirst : TakesContinuation (text ++ piece) := by
      simpa using h 0 (Nat.zero_lt_succ _)
    have hrest : ∀ k < pieces.length,
        TakesContinuation (text ++ piece ++ String.join (pieces.take (k + 1))) := by
      intro k hk
      have hnext := h (k + 1) (Nat.succ_lt_succ hk)
      rwa [List.take_succ_cons, String.join_cons, ← String.append_assoc] at hnext
    calc readCommandFrom text continued (joinableLines (piece :: pieces) last ++ items)
        = readCommandFrom (text ++ piece) true (joinableLines pieces last ++ items) := by
          rw [joinableLines, List.map_cons, List.cons_append, List.cons_append, readCommandFrom,
            hfirst.after continued]
          rfl
      _ = readCommandFrom (text ++ piece) true (.line (String.join pieces ++ last) :: items) :=
          ih (text ++ piece) true hrest
      _ = readCommandFrom text continued (.line (String.join (piece :: pieces) ++ last) :: items) :=
          readCommandFrom_line (by rw [String.join_cons]; simp [String.append_assoc]) _ _ items

/-- Cutting a text into lines with backslashes makes no difference to what is read as a command, nor
to what is left of the source: the pieces may end anywhere but in an escape or in a comment, in
quotes and words and between operators as well. -/
theorem readCommand_joinableLines (pieces : List String) (last : String)
    (h : ∀ k < pieces.length, TakesContinuation (String.join (pieces.take (k + 1))))
    (items : List SourceItem) :
    readCommand (joinableLines pieces last ++ items)
      = readCommand (.line (String.join pieces ++ last) :: items) :=
  readCommandFrom_joinableLines pieces last "" false items fun k hk => by
    rw [String.empty_append]
    exact h k hk

/-- The pieces of this text end in a quote and in a scope, and between an operator and its operand. -/
theorem readCommand_joinableLines_quote :
    let pieces := ["(a \"b", " c\" &&"]
    (∀ k < pieces.length, TakesContinuation (String.join (pieces.take (k + 1)))) ∧
    readCommand [.line "(a \"b\\", .line " c\" &&\\", .line " d)", .line "e"]
      = readCommand [.line "(a \"b c\" && d)", .line "e"] ∧
    readCommand [.line "(a \"b c\" && d)", .line "e"]
      = ⟨.command "(a \"b c\" && d)" [.operator .openScope, .word "a", .word "b c",
          .operator .conjunction, .word "d", .operator .closeScope], [.line "e"]⟩ := by
  intro pieces
  have hquote : TakesContinuation "(a \"b" := by
    refine ⟨⟨⟨[.operator .openScope, .word "a"], false, true, 1⟩, ?_, rfl⟩, ?_⟩
    · cbv
    · decide
  have hoperator : TakesContinuation "(a \"b c\" &&" := by
    refine ⟨⟨⟨[.operator .openScope, .word "a", .word "b c", .operator .conjunction],
      false, false, 1⟩, ?_, rfl⟩, ?_⟩
    · cbv
    · decide
  have hpieces : ∀ k < pieces.length, TakesContinuation (String.join (pieces.take (k + 1))) := by
    intro k hk
    match k with
    | 0 => exact hquote
    | 1 => exact hoperator
    | k + 2 => exact absurd hk (by simp [pieces])
  refine ⟨hpieces, readCommand_joinableLines pieces " d)" hpieces [.line "e"], ?_⟩
  cbv

end CommandShell
