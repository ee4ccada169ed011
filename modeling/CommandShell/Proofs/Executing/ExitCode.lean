import CommandShell.Builtin
import Mathlib.Data.Nat.Digits.Defs
import Mathlib.Data.String.Basic
set_option autoImplicit false

/-!
# The code that an exit is given

What number stands at the front of a text is said here by the form of the text: blanks, a sign or
none, and digits, with no further digit behind them.  An `exit` takes this number for its code if it
is one of 32 bits, and 0 in all other cases.

The same is read when the text is cut at byte positions, for the sign and the digits take one byte
each.  So no such cut falls behind the end or into a character, whatever stands behind the digits.
-/

namespace CommandShell

/-! ## Numbers at the front of a text -/

/-- One or more decimal digits, and behind them no further one. -/
structure IsNumeral (digits rest : List Char) : Prop where
  ne_nil : digits ≠ []
  isDigit : ∀ c ∈ digits, c.isDigit = true
  ends : ∀ c ∈ rest.head?, c.isDigit = false

/-- What digits stand for: the last one for itself, each other for ten times what it would stand for
one place further right. -/
def numeralValue (digits : List Char) : Nat :=
  Nat.ofDigits 10 (digits.reverse.map fun c => c.toNat - '0'.toNat)

/-- A number stands at the front of a text. -/
inductive BeginsWith : List Char → Int → Prop where
  | unsigned {digits rest} :
    IsNumeral digits rest → BeginsWith (digits ++ rest) (numeralValue digits)
  | plus {digits rest} :
    IsNumeral digits rest → BeginsWith ('+' :: (digits ++ rest)) (numeralValue digits)
  | minus {digits rest} :
    IsNumeral digits rest → BeginsWith ('-' :: (digits ++ rest)) (-numeralValue digits)

/-! ## Reading by byte positions -/

/-- The part of a text between two byte positions.  There is none if they are in the wrong order, or
if one of them is behind the end or inside a character. -/
def slice? (text : String) (start stop : Nat) : Option String :=
  if start ≤ stop ∧ String.Pos.Raw.isValid text ⟨start⟩ ∧ String.Pos.Raw.isValid text ⟨stop⟩ then
    some (String.Pos.Raw.extract text ⟨start⟩ ⟨stop⟩)
  else none

/-- The sign at the front of a text, if there is one, and what is behind it. -/
def splitSign : List Char → List Char × List Char
  | '-' :: cs => (['-'], cs)
  | '+' :: cs => (['+'], cs)
  | cs => ([], cs)

/-- A value with its sign. -/
def signed (sign : List Char) (value : Nat) : Int := if sign = ['-'] then -value else value

/-- The number that digits stand for behind a sign, if it has no more than 32 bits. -/
def numberOf (sign digits : List Char) : Option Int :=
  let value := signed sign (decimalValue digits)
  if digits.isEmpty || !isExitCode value then none else some value

/-- The number that a text is: at most one sign, digits, and nothing else. -/
def wholeInteger (text : String) : Option Int :=
  let (sign, digits) := splitSign text.toList
  if digits.all Char.isDigit then numberOf sign digits else none

/-- The number at the front of a text, read by cutting off the text behind it at a byte position
that is found by counting characters.  The outer option is for the cuts. -/
def leadingIntegerByBytes (text : String) : Option (Option Int) := do
  let text := String.ofList (Text.trimStart text.toList)
  let sign := (splitSign text.toList).1.length
  let behind ← slice? text sign text.utf8ByteSize
  let count := (behind.toList.takeWhile Char.isDigit).length
  if count = 0 then return none
  return wholeInteger (← slice? text 0 (sign + count))

/-! ## Signs and digits -/

theorem isExitCode_iff {value : Int} :
    isExitCode value = true ↔ -2 ^ 31 ≤ value ∧ value ≤ 2 ^ 31 - 1 := by
  rw [isExitCode, Bool.and_eq_true, decide_eq_true_iff, decide_eq_true_iff]
  norm_num

theorem decimalValue_eq (digits : List Char) : decimalValue digits = numeralValue digits := by
  rw [numeralValue, Nat.ofDigits_eq_foldr, List.foldr_map, List.foldr_reverse, decimalValue]
  congr 1
  funext value c
  exact Nat.add_comm _ _

/-- A digit takes one byte. -/
theorem utf8Len_of_isDigit {digits : List Char} (h : ∀ c ∈ digits, c.isDigit = true) :
    String.utf8Len digits = digits.length := by
  induction digits with
  | nil => rfl
  | cons c digits ih =>
    obtain ⟨hc, hdigits⟩ := List.forall_mem_cons.1 h
    have hle : c.val ≤ '9'.val := by
      rw [Char.isDigit, Bool.and_eq_true, decide_eq_true_iff, decide_eq_true_iff] at hc
      exact hc.2
    have hbyte : c.utf8Size = 1 :=
      Char.utf8Size_eq_one_iff.2 (UInt32.le_trans hle (by decide))
    rw [String.utf8Len_cons, ih hdigits, hbyte, List.length_cons]

theorem IsNumeral.takeWhile_eq {digits rest : List Char} (h : IsNumeral digits rest) :
    (digits ++ rest).takeWhile Char.isDigit = digits := by
  rw [List.takeWhile_append_of_pos h.isDigit]
  cases rest with
  | nil => rw [List.takeWhile_nil, List.append_nil]
  | cons c rest => rw [List.takeWhile_cons_of_neg (by rw [h.ends c rfl]; decide), List.append_nil]

/-- The digits at the front of a text are a numeral, if there are any. -/
theorem isNumeral_takeWhile {cs : List Char} (h : cs.takeWhile Char.isDigit ≠ []) :
    IsNumeral (cs.takeWhile Char.isDigit) (cs.dropWhile Char.isDigit) := by
  refine ⟨h, List.all_eq_true.1 List.all_takeWhile, fun c hc => ?_⟩
  have hhead := List.head?_dropWhile_not Char.isDigit cs
  rwa [Option.mem_def.1 hc] at hhead

theorem splitSign_append (cs : List Char) : (splitSign cs).1 ++ (splitSign cs).2 = cs := by
  unfold splitSign
  split <;> rfl

theorem splitSign_fst (cs : List Char) :
    (splitSign cs).1 = ['-'] ∨ (splitSign cs).1 = ['+'] ∨ (splitSign cs).1 = [] := by
  unfold splitSign
  split <;> simp

/-- A sign takes one byte. -/
theorem utf8Len_splitSign (cs : List Char) :
    String.utf8Len (splitSign cs).1 = (splitSign cs).1.length := by
  obtain hsign | hsign | hsign := splitSign_fst cs <;> rw [hsign] <;> rfl

theorem splitSign_of_ne {cs : List Char} (hminus : ∀ rest, cs ≠ '-' :: rest)
    (hplus : ∀ rest, cs ≠ '+' :: rest) : splitSign cs = ([], cs) := by
  unfold splitSign
  split
  · exact absurd rfl (hminus _)
  · exact absurd rfl (hplus _)
  · rfl

/-- No sign is split off from digits. -/
theorem splitSign_digits {digits : List Char} (h : ∀ c ∈ digits, c.isDigit = true)
    (hne : digits ≠ []) (rest : List Char) : splitSign (digits ++ rest) = ([], digits ++ rest) := by
  obtain ⟨c, digits, rfl⟩ := List.exists_cons_of_ne_nil hne
  have hc := h c (List.mem_cons_self ..)
  refine splitSign_of_ne ?_ ?_ <;> rintro rest' ⟨⟩ <;> cases hc

/-- From digits behind the sign of a text this sign is split off again. -/
theorem splitSign_fst_append (cs : List Char) {digits : List Char}
    (h : ∀ c ∈ digits, c.isDigit = true) (hne : digits ≠ []) :
    splitSign ((splitSign cs).1 ++ digits) = ((splitSign cs).1, digits) := by
  have hdigits := splitSign_digits h hne []
  rw [List.append_nil] at hdigits
  obtain hsign | hsign | hsign := splitSign_fst cs <;> rw [hsign]
  · rfl
  · rfl
  · exact hdigits

/-- What stands in front of a number is split off as its sign. -/
theorem BeginsWith.exists_numeral {cs : List Char} {value : Int} (h : BeginsWith cs value) :
    ∃ digits rest, IsNumeral digits rest ∧ (splitSign cs).2 = digits ++ rest ∧
      value = signed (splitSign cs).1 (numeralValue digits) := by
  cases h with
  | @unsigned digits rest hnumeral =>
    rw [splitSign_digits hnumeral.isDigit hnumeral.ne_nil]
    exact ⟨digits, rest, hnumeral, rfl, rfl⟩
  | @plus digits rest hnumeral => exact ⟨digits, rest, hnumeral, rfl, rfl⟩
  | @minus digits rest hnumeral => exact ⟨digits, rest, hnumeral, rfl, rfl⟩

/-- A numeral behind a sign, or behind none, is a number. -/
theorem exists_beginsWith {cs digits rest : List Char} (h : IsNumeral digits rest)
    (hcs : (splitSign cs).2 = digits ++ rest) : ∃ value, BeginsWith cs value := by
  have heq : cs = (splitSign cs).1 ++ (digits ++ rest) := by rw [← hcs, splitSign_append]
  rw [heq]
  have hminus := BeginsWith.minus h
  have hplus := BeginsWith.plus h
  have hunsigned := BeginsWith.unsigned h
  obtain hsign | hsign | hsign := splitSign_fst cs <;> rw [hsign]
  · exact ⟨_, hminus⟩
  · exact ⟨_, hplus⟩
  · exact ⟨_, hunsigned⟩

/-! ## The number that is read -/

theorem leadingInteger_eq (text : String) :
    leadingInteger text = numberOf (splitSign (Text.trimStart text.toList)).1
      ((splitSign (Text.trimStart text.toList)).2.takeWhile Char.isDigit) := by
  unfold leadingInteger
  generalize Text.trimStart text.toList = cs
  dsimp only
  split
  · rfl
  · rfl
  · rename_i hminus hplus
    rw [splitSign_of_ne hminus hplus]
    rfl

theorem leadingInteger_of_beginsWith {text : String} {value : Int}
    (h : BeginsWith (Text.trimStart text.toList) value) :
    leadingInteger text = if isExitCode value then some value else none := by
  obtain ⟨digits, rest, hnumeral, hrest, rfl⟩ := h.exists_numeral
  rw [leadingInteger_eq, hrest, hnumeral.takeWhile_eq, numberOf, decimalValue_eq,
    List.isEmpty_eq_false_iff.2 hnumeral.ne_nil, Bool.false_or]
  cases isExitCode _ <;> rfl

theorem leadingInteger_eq_none {text : String}
    (h : ∀ value, ¬ BeginsWith (Text.trimStart text.toList) value) :
    leadingInteger text = none := by
  have hnone : (splitSign (Text.trimStart text.toList)).2.takeWhile Char.isDigit = [] := by
    by_contra hne
    obtain ⟨value, hvalue⟩ := exists_beginsWith (isNumeral_takeWhile hne)
      (List.takeWhile_append_dropWhile ..).symm
    exact h value hvalue
  rw [leadingInteger_eq, hnone]
  rfl

/-! ## Cuts -/

/-- A cut between two parts of a text gives the part in the middle. -/
theorem slice?_append (before middle after : List Char) :
    slice? (String.ofList (before ++ middle ++ after)) (String.utf8Len before)
        (String.utf8Len before + String.utf8Len middle)
      = some (String.ofList middle) := by
  have hstart : String.Pos.Raw.isValid (String.ofList (before ++ middle ++ after))
      ⟨String.utf8Len before⟩ := by
    rw [String.Pos.Raw.isValid_eq_true_iff, String.Pos.Raw.isValid_iff_exists_append]
    refine ⟨String.ofList before, String.ofList (middle ++ after), ?_, ?_⟩
    · rw [← String.ofList_append, List.append_assoc]
    · rw [String.rawEndPos_ofList]
  have hstop : String.Pos.Raw.isValid (String.ofList (before ++ middle ++ after))
      ⟨String.utf8Len before + String.utf8Len middle⟩ := by
    rw [String.Pos.Raw.isValid_eq_true_iff, String.Pos.Raw.isValid_iff_exists_append]
    refine ⟨String.ofList (before ++ middle), String.ofList after, ?_, ?_⟩
    · rw [← String.ofList_append]
    · rw [String.rawEndPos_ofList, String.utf8Len_append]
  rw [slice?, if_pos ⟨Nat.le_add_right .., hstart, hstop⟩, String.extract_of_valid]

/-- Behind the sign the text can be cut. -/
theorem slice?_behind_sign (cs : List Char) :
    slice? (String.ofList cs) (splitSign cs).1.length (String.ofList cs).utf8ByteSize
      = some (String.ofList (splitSign cs).2) := by
  have hcut := slice?_append (splitSign cs).1 (splitSign cs).2 []
  rwa [List.append_nil, splitSign_append, ← String.utf8Len_append, splitSign_append,
    utf8Len_splitSign, ← String.utf8ByteSize_ofList] at hcut

/-- Behind the digits the text can be cut. -/
theorem slice?_number (cs : List Char) :
    slice? (String.ofList cs) 0
        ((splitSign cs).1.length + ((splitSign cs).2.takeWhile Char.isDigit).length)
      = some (String.ofList ((splitSign cs).1 ++ (splitSign cs).2.takeWhile Char.isDigit)) := by
  have hcut := slice?_append [] ((splitSign cs).1 ++ (splitSign cs).2.takeWhile Char.isDigit)
    ((splitSign cs).2.dropWhile Char.isDigit)
  rwa [List.nil_append, List.append_assoc, List.takeWhile_append_dropWhile, splitSign_append,
    String.utf8Len_append, utf8Len_splitSign,
    utf8Len_of_isDigit (List.all_eq_true.1 List.all_takeWhile), String.utf8Len_nil,
    Nat.zero_add] at hcut

theorem wholeInteger_number {cs : List Char}
    (h : (splitSign cs).2.takeWhile Char.isDigit ≠ []) :
    wholeInteger (String.ofList ((splitSign cs).1 ++ (splitSign cs).2.takeWhile Char.isDigit))
      = numberOf (splitSign cs).1 ((splitSign cs).2.takeWhile Char.isDigit) := by
  have hdigits := List.all_eq_true.1
    (List.all_takeWhile : ((splitSign cs).2.takeWhile Char.isDigit).all Char.isDigit = true)
  rw [wholeInteger, String.toList_ofList, splitSign_fst_append cs hdigits h]
  exact if_pos List.all_takeWhile

/-- No cut fails, and the number is the same. -/
theorem leadingIntegerByBytes_eq (text : String) :
    leadingIntegerByBytes text = some (leadingInteger text) := by
  rw [leadingInteger_eq, leadingIntegerByBytes]
  generalize Text.trimStart text.toList = cs
  simp only [String.toList_ofList, slice?_behind_sign, slice?_number, Option.bind_eq_bind,
    Option.bind_some]
  by_cases hnone : (splitSign cs).2.takeWhile Char.isDigit = []
  · rw [hnone]
    rfl
  · rw [if_neg (mt List.length_eq_zero_iff.1 hnone), wholeInteger_number hnone]
    rfl

/-! ## Numbers that have been written -/

theorem isBlank_of_isDigit {c : Char} (h : c.isDigit = true) : Text.isBlank c = false := by
  rw [Char.isDigit, Bool.and_eq_true, decide_eq_true_iff, decide_eq_true_iff, ge_iff_le,
    UInt32.le_iff_toNat_le, UInt32.le_iff_toNat_le] at h
  change 48 ≤ c.toNat ∧ c.toNat ≤ 57 at h
  simp only [Text.isBlank, Bool.or_eq_false_iff, Bool.and_eq_false_iff, decide_eq_false_iff_not,
    beq_eq_false_iff_ne]
  omega

/-- The digits of a number are a numeral for it. -/
theorem numeralValue_toDigits (n : Nat) : numeralValue (Nat.toDigits 10 n) = n := by
  rw [← decimalValue_eq, decimalValue, ← Nat.ofDigitChars_eq_foldl]
  exact Nat.ofDigitChars_toDigits (by decide) (Nat.le_refl 10)

theorem isNumeral_toDigits (n : Nat) {rest : List Char}
    (h : ∀ c ∈ rest.head?, c.isDigit = false) : IsNumeral (Nat.toDigits 10 n) rest :=
  ⟨Nat.toDigits_ne_nil, fun _ hc => Nat.isDigit_of_mem_toDigits (by decide) (Nat.le_refl 10) hc, h⟩

/-- A number that is written down stands at the front of a text whose rest begins with no digit. -/
theorem beginsWith_toString (n : Int) {rest : List Char}
    (h : ∀ c ∈ rest.head?, c.isDigit = false) :
    BeginsWith (Text.trimStart ((toString n).toList ++ rest)) n := by
  rw [Int.toString_eq_repr, Int.repr_eq_if]
  split
  · rename_i hn
    have hnumeral := isNumeral_toDigits n.toNat h
    have hunsigned := BeginsWith.unsigned hnumeral
    rw [numeralValue_toDigits, Int.toNat_of_nonneg hn] at hunsigned
    obtain ⟨c, digits, hdigits⟩ := List.exists_cons_of_ne_nil hnumeral.ne_nil
    have hblank : ¬ Text.isBlank c = true := by
      rw [isBlank_of_isDigit (hnumeral.isDigit c (hdigits ▸ List.mem_cons_self ..))]
      decide
    rw [Nat.toList_repr, Text.trimStart]
    rw [hdigits] at hunsigned ⊢
    rwa [List.cons_append, List.dropWhile_cons_of_neg hblank]
  · rename_i hn
    have hminus := BeginsWith.minus (isNumeral_toDigits (-n).toNat h)
    rw [numeralValue_toDigits, Int.toNat_of_nonneg (by omega), Int.neg_neg] at hminus
    rw [String.toList_append, Nat.toList_repr]
    exact hminus

/-- An `exit` takes the number at the front of its first argument for its code if it is one of 32
bits, and 0 if there is none or a larger one; what other arguments there are makes no difference.
Cutting the argument at byte positions fails for no argument and gives the same number.  A number of
32 bits that is written down is read again, whatever stands behind it that begins with no digit. -/
theorem exitCode_leading (argument : String) (more : List String) :
    (∀ value, BeginsWith (Text.trimStart argument.toList) value → -2 ^ 31 ≤ value →
      value ≤ 2 ^ 31 - 1 → exitCode (argument :: more) = value) ∧
    ((∀ value, BeginsWith (Text.trimStart argument.toList) value →
      ¬ (-2 ^ 31 ≤ value ∧ value ≤ 2 ^ 31 - 1)) → exitCode (argument :: more) = 0) ∧
    leadingIntegerByBytes argument = some (leadingInteger argument) ∧
    ∀ (n : Int) (rest : String), -2 ^ 31 ≤ n → n ≤ 2 ^ 31 - 1 →
      (∀ c ∈ rest.toList.head?, c.isDigit = false) →
      exitCode ((toString n ++ rest) :: more) = n := by
  have hread : ∀ {text : String} {value : Int}, BeginsWith (Text.trimStart text.toList) value →
      -2 ^ 31 ≤ value → value ≤ 2 ^ 31 - 1 → exitCode (text :: more) = value := by
    intro text value hvalue hlow hhigh
    show (leadingInteger text).getD 0 = value
    rw [leadingInteger_of_beginsWith hvalue, if_pos (isExitCode_iff.2 ⟨hlow, hhigh⟩),
      Option.getD_some]
  refine ⟨fun _ => hread, fun hnone => ?_, leadingIntegerByBytes_eq argument, ?_⟩
  · show (leadingInteger argument).getD 0 = 0
    by_cases hnumber : ∃ value, BeginsWith (Text.trimStart argument.toList) value
    · obtain ⟨value, hvalue⟩ := hnumber
      rw [leadingInteger_of_beginsWith hvalue,
        if_neg (mt isExitCode_iff.1 (hnone value hvalue)), Option.getD_none]
    · rw [leadingInteger_eq_none (not_exists.1 hnumber), Option.getD_none]
  · intro n rest hlow hhigh hrest
    refine hread ?_ hlow hhigh
    rw [String.toList_append]
    exact beginsWith_toString n hrest

/-- The range has one more number below zero than above it. -/
example : exitCode ["\t-2147483648é", "1"] = -2147483648 ∧ exitCode ["2147483648"] = 0 := by
  decide +kernel

end CommandShell
