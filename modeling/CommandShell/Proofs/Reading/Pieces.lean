import CommandShell.Text.Lines
import Mathlib.Data.List.Basic
set_option autoImplicit false

/-!
# Pieces of bytes

What it is to cut bytes after each line feed, what is left of a piece without its end, and how a
piece of UTF-8 reads as a line.  Each of these is a relation of its own; the functions that cut and
decode are shown to satisfy it.
-/

namespace CommandShell.Text

/-- The byte of a carriage return. -/
def carriageReturn : UInt8 := 0x0D

/-- Bytes are cut after each line feed; no piece is empty. -/
inductive Cut : List UInt8 → List (List UInt8) → Prop
  | nil : Cut [] []
  /-- What comes after the last line feed. -/
  | last {bytes : List UInt8} : bytes ≠ [] → lineFeed ∉ bytes → Cut bytes [bytes]
  | cons {front rest : List UInt8} {pieces : List (List UInt8)} :
    lineFeed ∉ front → Cut rest pieces →
    Cut (front ++ lineFeed :: rest) ((front ++ [lineFeed]) :: pieces)

/-- A sequence without its end: the line feed that it ends in and, before such a one only, one
carriage return. -/
inductive Stripped {α : Type} (carriage feed : α) : List α → List α → Prop
  | both (front : List α) : Stripped carriage feed (front ++ [carriage, feed]) front
  | feed {front : List α} :
    front.getLast? ≠ some carriage → Stripped carriage feed (front ++ [feed]) front
  | neither {piece : List α} : piece.getLast? ≠ some feed → Stripped carriage feed piece piece

/-! ## Cutting -/

section Cutting

variable {piece front rest bytes : List UInt8} {pieces : List (List UInt8)}

theorem cutLines_of_not_mem (h : lineFeed ∉ bytes) :
    cutLines piece bytes
      = if piece.reverse ++ bytes = [] then [] else [piece.reverse ++ bytes] := by
  induction bytes generalizing piece with
  | nil => simp [cutLines]
  | cons byte rest ih =>
    obtain ⟨hbyte, hrest⟩ := not_or.1 (List.mem_cons.not.1 h)
    rw [cutLines, if_neg (Ne.symm hbyte), ih hrest]
    simp

theorem cutLines_append (h : lineFeed ∉ front) :
    cutLines piece (front ++ lineFeed :: rest)
      = (piece.reverse ++ front ++ [lineFeed]) :: cutLines [] rest := by
  induction front generalizing piece with
  | nil => simp [cutLines]
  | cons byte front ih =>
    obtain ⟨hbyte, hfront⟩ := not_or.1 (List.mem_cons.not.1 h)
    rw [List.cons_append, cutLines, if_neg (Ne.symm hbyte), ih hfront]
    simp

theorem cut_cutLines (bytes : List UInt8) : Cut bytes (cutLines [] bytes) := by
  by_cases hfeed : lineFeed ∈ bytes
  · obtain ⟨front, rest, hbytes, hfront⟩ := List.eq_append_cons_of_mem hfeed
    have hshorter : rest.length < bytes.length := by
      rw [hbytes, List.length_append, List.length_cons]
      omega
    rw [hbytes, cutLines_append hfront]
    exact .cons hfront (cut_cutLines rest)
  · rw [cutLines_of_not_mem hfeed]
    split
    · rename_i hnil
      rw [show bytes = [] from hnil]
      exact .nil
    · rename_i hne
      exact .last hne hfeed
termination_by bytes.length

/-- There is one way to cut bytes. -/
theorem cut_iff : Cut bytes pieces ↔ pieces = cutLines [] bytes := by
  constructor
  · intro hcut
    induction hcut with
    | nil => rfl
    | last hne hfeed =>
      rw [cutLines_of_not_mem hfeed, List.reverse_nil, List.nil_append, if_neg hne]
    | cons hfront _ ih => rw [cutLines_append hfront, ih, List.reverse_nil, List.nil_append]
  · rintro rfl
    exact cut_cutLines bytes

end Cutting

/-! ## What a piece is without its end -/

section Stripping

variable {α : Type} {carriage feed : α} {piece line line' : List α}

theorem Stripped.unique (h : Stripped carriage feed piece line)
    (h' : Stripped carriage feed piece line') : line = line' := by
  have hlast (front : List α) : (front ++ [carriage, feed]).getLast? = some feed := by simp
  have hboth {front other : List α} (heq : front ++ [carriage, feed] = other ++ [feed]) :
      other.getLast? = some carriage := by
    have hother : front ++ [carriage] = other := List.append_cancel_right (by simpa using heq)
    simp [← hother]
  cases h with
  | both =>
    generalize hpiece : line ++ [carriage, feed] = piece at h'
    cases h' with
    | both => exact List.append_cancel_right hpiece
    | feed hne => exact absurd (hboth hpiece) hne
    | neither hne => exact absurd (hpiece ▸ hlast line) hne
  | feed hne =>
    generalize hpiece : line ++ [feed] = piece at h'
    cases h' with
    | both => exact absurd (hboth hpiece.symm) hne
    | feed hne' => exact List.append_cancel_right hpiece
    | neither hne' => exact absurd (by rw [← hpiece]; simp) hne'
  | neither hne =>
    cases h' with
    | both => exact absurd (hlast _) hne
    | feed hne' => exact absurd (by simp) hne
    | neither => rfl

theorem stripped_stripLineEnd (cs : List Char) : Stripped '\r' '\n' cs (stripLineEnd cs) := by
  obtain ⟨back, rfl⟩ : ∃ back : List Char, cs = back.reverse := ⟨cs.reverse, by simp⟩
  unfold stripLineEnd
  rw [List.reverse_reverse]
  split
  · rename_i rest
    simpa using Stripped.both rest.reverse
  · rename_i rest hrest
    rw [List.reverse_cons]
    apply Stripped.feed
    rw [List.getLast?_reverse]
    intro hhead
    obtain ⟨rest', rfl⟩ := List.head?_eq_some_iff.1 hhead
    exact hrest rest' rfl
  · rename_i hback
    apply Stripped.neither
    rw [List.getLast?_reverse]
    intro hhead
    obtain ⟨rest, rfl⟩ := List.head?_eq_some_iff.1 hhead
    exact hback rest rfl

end Stripping

/-! ## Bytes of characters -/

section Encoding

variable {cs : List Char} {c d : Char} {byte : UInt8}

/-- The bytes of characters. -/
def encode (cs : List Char) : List UInt8 := cs.flatMap String.utf8EncodeChar

theorem encode_append (front back : List Char) :
    encode (front ++ back) = encode front ++ encode back :=
  List.flatMap_append

theorem eq_nil_of_encode (h : encode cs = []) : cs = [] := by
  rw [encode, List.flatMap_eq_nil_iff] at h
  exact List.eq_nil_iff_forall_not_mem.2 fun c hc => String.utf8EncodeChar_ne_nil (h c hc)

theorem toList_loop (bytes : ByteArray) (i : Nat) (before : List UInt8) :
    ByteArray.toList.loop bytes i before = before.reverse ++ bytes.data.toList.drop i := by
  fun_induction ByteArray.toList.loop bytes i before with
  | case1 i before hlt ih =>
    have hlength : i < bytes.data.toList.length := by simpa using hlt
    have hbyte : bytes.get! i = bytes.data.toList[i] := by
      simp [ByteArray.get!, getElem!_pos bytes.data i (by simpa using hlength)]
    rw [ih, List.reverse_cons, List.append_assoc, List.drop_eq_getElem_cons hlength, hbyte]
    rfl
  | case2 i before hge =>
    rw [List.drop_eq_nil_of_le (by simpa using hge), List.append_nil]

theorem toList_eq_data (bytes : ByteArray) : bytes.toList = bytes.data.toList :=
  toList_loop bytes 0 []

theorem toList_toUTF8 (text : String) : text.toUTF8.toList = encode text.toList := by
  rw [toList_eq_data, String.toUTF8_eq_toByteArray, ← String.utf8Encode_toList]
  simp [List.utf8Encode, encode]

theorem eq_of_toUTF8_toList {text text' : String}
    (h : text.toUTF8.toList = text'.toUTF8.toList) : text = text' := by
  rw [toList_eq_data, toList_eq_data, Array.toList_inj] at h
  exact String.toByteArray_inj.1 (ByteArray.ext h)

/-- A byte below 0x80 is not one of several bytes of a character. -/
theorem toNat_eq_of_mem (hascii : byte.toNat < 0x80) (hmem : byte ∈ String.utf8EncodeChar c) :
    c.toNat = byte.toNat := by
  revert hmem
  fun_cases String.utf8EncodeChar c with
  | case1 value hvalue =>
    intro hmem
    have hc : c.toNat ≤ 0x7F := hvalue
    rw [List.mem_singleton.1 hmem, UInt8.toNat_ofNat']
    exact (Nat.mod_eq_of_lt (by omega)).symm
  | _ =>
    intro hmem
    simp only [List.mem_cons, List.not_mem_nil, or_false] at hmem
    rcases hmem with rfl | rfl | rfl | rfl <;> simp at hascii <;> omega

theorem eq_of_mem_utf8EncodeChar (hd : d.toNat < 0x80)
    (hmem : UInt8.ofNat d.toNat ∈ String.utf8EncodeChar c) : c = d := by
  have hbyte : (UInt8.ofNat d.toNat).toNat = d.toNat := by
    rw [UInt8.toNat_ofNat', Nat.mod_eq_of_lt (by omega)]
  have hc := toNat_eq_of_mem (by omega) hmem
  exact Char.toNat_inj.1 (hc.trans hbyte)

theorem mem_of_mem_encode (hd : d.toNat < 0x80) (hmem : UInt8.ofNat d.toNat ∈ encode cs) :
    d ∈ cs := by
  obtain ⟨c, hc, hbyte⟩ := List.mem_flatMap.1 hmem
  rwa [← eq_of_mem_utf8EncodeChar hd hbyte]

theorem getLast?_of_encode (hd : d.toNat < 0x80)
    (hlast : (encode cs).getLast? = some (UInt8.ofNat d.toNat)) : cs.getLast? = some d := by
  rcases List.eq_nil_or_concat' cs with rfl | ⟨front, c, rfl⟩
  · cases hlast
  · rw [encode_append, List.getLast?_append_of_ne_nil _ (by simp [encode])] at hlast
    have hc : c = d :=
      eq_of_mem_utf8EncodeChar hd (by simpa [encode] using List.mem_of_getLast? hlast)
    rw [hc, List.getLast?_concat]

/-- Characters are stripped of their end as their bytes are. -/
theorem Stripped.encode {line : List Char} (h : Stripped '\r' '\n' cs line) :
    Stripped carriageReturn lineFeed (encode cs) (encode line) := by
  cases h with
  | both =>
    rw [encode_append]
    exact .both _
  | feed hne =>
    rw [encode_append]
    exact .feed fun hlast => hne (getLast?_of_encode (by decide) hlast)
  | neither hne => exact .neither fun hlast => hne (getLast?_of_encode (by decide) hlast)

end Encoding

/-! ## Decoding -/

theorem decodeLine_of_valid {piece : List UInt8} (h : ByteArray.IsValidUTF8 ⟨piece.toArray⟩) :
    ∃ text, decodeLine piece = some text ∧
      Stripped carriageReturn lineFeed piece text.toUTF8.toList := by
  let whole := String.fromUTF8 ⟨piece.toArray⟩ h
  have hpiece : encode whole.toList = piece := by
    rw [← toList_toUTF8, toList_eq_data]
    rfl
  refine ⟨String.ofList (stripLineEnd whole.toList), ?_, ?_⟩
  · unfold decodeLine String.fromUTF8?
    rw [dif_pos h]
    rfl
  · have hstripped := (stripped_stripLineEnd whole.toList).encode
    rw [hpiece] at hstripped
    rwa [toList_toUTF8, String.toList_ofList]

theorem decodeLine_of_invalid {piece : List UInt8} (h : ¬ ByteArray.IsValidUTF8 ⟨piece.toArray⟩) :
    decodeLine piece = none := by
  unfold decodeLine String.fromUTF8?
  rw [dif_neg h]
  rfl

end CommandShell.Text
