import CommandShell.Proofs.Reading.Pieces
import CommandShell.Session
import Mathlib.Data.List.Forall2
set_option autoImplicit false

/-!
# What a source of lines gives

A source that holds some bytes gives a line for each of their pieces, a fault for a piece that is no
UTF-8, and the end of the input after the last one for ever.  It does so whether the lines are given
beforehand or read from an open file, into whatever blocks the file falls.  So lines that are
written one behind the other are read as they were.
-/

namespace CommandShell

open Machine (Descriptor Routine)
open Text (Cut Stripped carriageReturn lineFeed)

/-- What a source gives for a piece: its line, or a fault if it is no UTF-8. -/
inductive GivenAs (piece : List UInt8) : SourceItem → Prop
  | line {text : String} :
    ByteArray.IsValidUTF8 ⟨piece.toArray⟩ →
    Stripped carriageReturn lineFeed piece text.toUTF8.toList → GivenAs piece (.line text)
  | fault :
    ¬ ByteArray.IsValidUTF8 ⟨piece.toArray⟩ → GivenAs piece (.fault (.stream .invalidEncoding))

theorem GivenAs.unique {piece : List UInt8} {item item' : SourceItem} (h : GivenAs piece item)
    (h' : GivenAs piece item') : item = item' := by
  cases h with
  | line hvalid hstripped =>
    cases h' with
    | line _ hstripped' =>
      rw [Text.eq_of_toUTF8_toList (hstripped.unique hstripped')]
    | fault hinvalid => exact absurd hvalid hinvalid
  | fault hinvalid =>
    cases h' with
    | line hvalid => exact absurd hvalid hinvalid
    | fault => rfl

/-- How a line ends in a text. -/
inductive LineEnd where
  | feed
  | carriageFeed
  | missing
  deriving DecidableEq

/-- The characters of the end of a line. -/
def LineEnd.text : LineEnd → String
  | feed => "\n"
  | carriageFeed => "\r\n"
  | missing => ""

/-- A line with the end that it has in a text. -/
structure WrittenLine where
  text : String
  ending : LineEnd

namespace WrittenLine

/-- The bytes of a line with its end. -/
def bytes (line : WrittenLine) : List UInt8 := (line.text ++ line.ending.text).toUTF8.toList

/-- Lines that can be written one behind the other: there is no line feed in one and no carriage
return at the end of one, and only the last one may lack its end, unless it is empty. -/
structure Separable (lines : List WrittenLine) : Prop where
  feedless : ∀ line ∈ lines, '\n' ∉ line.text.toList
  returnless : ∀ line ∈ lines, line.text.toList.getLast? ≠ some '\r'
  ended : ∀ line ∈ lines.dropLast, line.ending ≠ .missing
  nonempty : ∀ line ∈ lines, line.ending = .missing → line.text ≠ ""

end WrittenLine

/-- How a routine goes on that only reads an open file of the given blocks: each read takes the next
one, and finds the end of the file if there is none.  With the result come the blocks that are left;
none if the routine does anything else. -/
def Machine.Routine.fed {α : Type} (file : Descriptor) :
    Routine α → List ByteArray → Option (α × List ByteArray)
  | .done result, blocks => some (result, blocks)
  | .call (.read descriptor _) next, blocks =>
    if descriptor = file then (next (.ok (blocks.headD .empty))).fed file blocks.tail else none
  | _, _ => none

namespace Machine.Routine

variable {α : Type} {file : Descriptor} {blocks : List ByteArray}

theorem fed_done (result : α) : (done result).fed file blocks = some (result, blocks) := rfl

theorem fed_read {descriptor : Descriptor} {limit : Nat}
    (next : Except Errno ByteArray → Routine α) :
    (call (.read descriptor limit) next).fed file blocks
      = if descriptor = file then (next (.ok (blocks.headD .empty))).fed file blocks.tail
        else none := rfl

end Machine.Routine

namespace LineSource

/-- What a source gives one time after another. -/
def reads : Nat → LineSource → InterpreterM (List (Option SourceItem))
  | 0, _ => return []
  | n + 1, source => do
    let (item, source) ← source.next
    return item :: (← reads n source)

/-- Blocks of a file that are not empty and that lines do not need too many of. -/
structure Readable (blocks : List ByteArray) : Prop where
  nonempty : ∀ block ∈ blocks, block.toList ≠ []
  short : ∀ run, run <:+: blocks → (∀ block ∈ run, lineFeed ∉ block.toList) →
    run.length + 1 < maxBlocks

/-! ## Items -/

/-- What a source gives for a piece. -/
def itemFor (piece : List UInt8) : SourceItem :=
  match Text.decodeLine piece with
  | some text => .line text
  | none => .fault (.stream .invalidEncoding)

theorem givenAs_itemFor (piece : List UInt8) : GivenAs piece (itemFor piece) := by
  unfold itemFor
  by_cases hvalid : ByteArray.IsValidUTF8 ⟨piece.toArray⟩
  · obtain ⟨text, htext, hstripped⟩ := Text.decodeLine_of_valid hvalid
    rw [htext]
    exact .line hvalid hstripped
  · rw [Text.decodeLine_of_invalid hvalid]
    exact .fault hvalid

theorem itemOfPiece_of_ne_nil {piece : List UInt8} (h : piece ≠ []) :
    itemOfPiece piece = some (itemFor piece) := by
  unfold itemOfPiece itemFor
  rw [if_neg (by simpa using h)]
  cases Text.decodeLine piece <;> rfl

theorem ofBytes_eq (bytes : List UInt8) :
    ofBytes bytes = .items ((Text.cutLines [] bytes).map itemFor) := by
  unfold ofBytes Text.lines
  rw [List.map_map]
  rfl

/-! ## Lines that are given beforehand -/

theorem reads_items (n : Nat) (given : List SourceItem) :
    reads n (items given) = pure ((List.range n).map (given[·]?)) := by
  induction n generalizing given with
  | zero => rfl
  | succ n ih =>
    rw [List.range_succ_eq_map, List.map_cons, List.map_map]
    cases given with
    | nil =>
      unfold reads next
      rw [pure_bind]
      dsimp only
      rw [ih, pure_bind]
      simp [Function.comp_def]
    | cons item rest =>
      unfold reads next
      rw [pure_bind]
      dsimp only
      rw [ih, pure_bind]
      rfl

/-! ## Lines of an open file -/

section Feeding

variable {α β : Type} {file : Descriptor} {blocks rest : List ByteArray}

theorem fed_bind (routine : Routine α) (next : α → Routine β) :
    (routine.bind next).fed file blocks
      = (routine.fed file blocks).bind fun ran => (next ran.1).fed file ran.2 := by
  induction routine generalizing blocks with
  | done result => rfl
  | exit code => rfl
  | call call following ih =>
    cases call with
    | read descriptor limit =>
      rw [Routine.bind, Routine.fed_read, Routine.fed_read]
      split
      · exact ih _
      · rfl
    | _ => rfl

variable {s : Interpreter} {fuel : Nat} {piece pending front : List UInt8} {block : ByteArray}

theorem takeWhile_append (hfront : lineFeed ∉ front) (back : List UInt8) :
    (front ++ back).takeWhile (· ≠ lineFeed) = front ++ back.takeWhile (· ≠ lineFeed) := by
  apply List.takeWhile_append_of_pos
  intro byte hbyte
  exact decide_eq_true fun heq => hfront (heq ▸ hbyte)

/-- A line feed among the bytes that have been read ends the piece. -/
theorem fed_readPiece_feed (hfront : lineFeed ∉ front) (back : List UInt8) :
    ((readPiece file piece (front ++ lineFeed :: back) (fuel + 1)).run s).fed file blocks
      = some (((.ok (piece ++ front ++ [lineFeed]), back), s), blocks) := by
  unfold readPiece
  rw [takeWhile_append hfront, List.takeWhile_cons_of_neg (by simp), List.append_nil]
  dsimp only
  rw [List.drop_left]
  rfl

/-- Without one another block is read. -/
theorem run_readPiece (hpending : lineFeed ∉ pending) :
    (readPiece file piece pending (fuel + 1)).run s
      = .call (.read file blockSize) fun reply =>
        StateT.run (match reply with
          | .error errno => pure (.error errno, [])
          | .ok bytes =>
            if bytes.isEmpty then pure (.ok (piece ++ pending), [])
            else readPiece file (piece ++ pending) bytes.toList fuel) s := by
  have htake : pending.takeWhile (· ≠ lineFeed) = pending := by
    simpa using takeWhile_append hpending []
  conv_lhs => unfold readPiece
  rw [htake]
  dsimp only
  rw [List.drop_length]
  rfl

/-- A block that is not empty takes the place of the bytes that have been read. -/
theorem fed_readPiece_block (hpending : lineFeed ∉ pending) (hblock : block.toList ≠ []) :
    ((readPiece file piece pending (fuel + 1)).run s).fed file (block :: rest)
      = ((readPiece file (piece ++ pending) block.toList fuel).run s).fed file rest := by
  have hempty : block.isEmpty = false := by
    rw [Text.toList_eq_data] at hblock
    simpa [ByteArray.isEmpty, ← ByteArray.size_data] using hblock
  rw [run_readPiece hpending, Routine.fed_read, if_pos rfl]
  dsimp only [List.headD_cons, List.tail_cons]
  rw [hempty]
  rfl

/-- At the end of the file the piece is what there is. -/
theorem fed_readPiece_end (hpending : lineFeed ∉ pending) :
    ((readPiece file piece pending (fuel + 1)).run s).fed file []
      = some (((.ok (piece ++ pending), []), s), []) := by
  rw [run_readPiece hpending, Routine.fed_read, if_pos rfl]
  rfl

/-- The fuel is enough to come to the end of a line, of which some bytes have been read. -/
structure Suffices (fuel : Nat) (pending : List UInt8) (blocks : List ByteArray) : Prop where
  pos : 0 < fuel
  enough : lineFeed ∉ pending → ∀ run, run <+: blocks →
    (∀ block ∈ run, lineFeed ∉ block.toList) → run.length + 1 < fuel

theorem Suffices.exists_succ (h : Suffices fuel pending blocks) : ∃ less, fuel = less + 1 :=
  Nat.exists_eq_add_of_le' h.pos

theorem Suffices.refill (h : Suffices (fuel + 1) pending (block :: rest))
    (hpending : lineFeed ∉ pending) : Suffices fuel block.toList rest where
  pos := Nat.lt_of_succ_lt_succ (h.enough hpending [] List.nil_prefix (by simp))
  enough hblock run hrun hfeedless :=
    Nat.lt_of_succ_lt_succ (h.enough hpending (block :: run) (by simpa using hrun)
      (List.forall_mem_cons.2 ⟨hblock, hfeedless⟩))

theorem Readable.suffices (h : Readable blocks) : Suffices maxBlocks pending blocks where
  pos := by decide
  enough _ run hrun hfeedless := h.short run hrun.isInfix hfeedless

theorem Readable.suffix (h : Readable blocks) (hrest : rest <:+ blocks) : Readable rest where
  nonempty block hblock := h.nonempty block (hrest.subset hblock)
  short run hrun := h.short run (hrun.trans hrest.isInfix)

/-- The first line feed is either among the bytes that have been read or behind them. -/
theorem pending_or_blocks {back ahead : List UInt8} (hfront : lineFeed ∉ front)
    (h : pending ++ ahead = front ++ lineFeed :: back) :
    (∃ others, pending = front ++ lineFeed :: others ∧ others ++ ahead = back) ∨
      lineFeed ∉ pending ∧ ∃ others, front = pending ++ others ∧
        ahead = others ++ lineFeed :: back := by
  rcases List.append_eq_append_iff.1 h with ⟨others, rfl, hahead⟩ | ⟨others, rfl, hback⟩
  · exact .inr ⟨fun hmem => hfront (List.mem_append_left _ hmem), others, rfl, hahead⟩
  · cases others with
    | nil =>
      rw [List.append_nil]
      exact .inr ⟨hfront, [], by simp, hback.symm⟩
    | cons byte others =>
      obtain ⟨rfl, rfl⟩ := List.cons.inj hback
      exact .inl ⟨others, rfl, rfl⟩

/-- If a line feed is to come, the piece ends with the first one, and what is behind it stays. -/
theorem fed_readPiece_line (piece : List UInt8) {back : List UInt8}
    (hnonempty : ∀ block ∈ blocks, block.toList ≠ [])
    (hfuel : Suffices fuel pending blocks) (hfront : lineFeed ∉ front)
    (hbytes : pending ++ blocks.flatMap ByteArray.toList = front ++ lineFeed :: back) :
    ∃ pending' blocks', blocks' <:+ blocks ∧
      pending' ++ blocks'.flatMap ByteArray.toList = back ∧
      ((readPiece file piece pending fuel).run s).fed file blocks
        = some (((.ok (piece ++ front ++ [lineFeed]), pending'), s), blocks') := by
  -- each block that is read takes one unit of fuel, and moves what was pending to the piece
  induction blocks generalizing piece pending front fuel with
  | nil =>
    obtain ⟨fuel, rfl⟩ := hfuel.exists_succ
    rw [List.flatMap_nil] at hbytes
    rcases pending_or_blocks hfront hbytes with ⟨others, rfl, hback⟩ | ⟨_, others, _, hothers⟩
    · exact ⟨others, [], List.suffix_rfl, hback, fed_readPiece_feed hfront others⟩
    · simp at hothers
  | cons block rest ih =>
    obtain ⟨fuel, rfl⟩ := hfuel.exists_succ
    rcases pending_or_blocks hfront hbytes with
      ⟨others, rfl, hback⟩ | ⟨hpending, others, rfl, hothers⟩
    · exact ⟨others, block :: rest, List.suffix_rfl, hback, fed_readPiece_feed hfront others⟩
    · obtain ⟨hblock, hrest⟩ := List.forall_mem_cons.1 hnonempty
      have hfeedless : lineFeed ∉ others := fun hmem => hfront (List.mem_append_right _ hmem)
      obtain ⟨pending', blocks', hsuffix, hback, hfed⟩ :=
        ih (piece ++ pending) hrest (hfuel.refill hpending) hfeedless hothers
      refine ⟨pending', blocks', hsuffix.trans (List.suffix_cons ..), hback, ?_⟩
      rw [fed_readPiece_block hpending hblock, hfed]
      simp

/-- If none is to come, the piece is all there is. -/
theorem fed_readPiece_rest (piece : List UInt8)
    (hnonempty : ∀ block ∈ blocks, block.toList ≠ [])
    (hfuel : Suffices fuel pending blocks)
    (hbytes : lineFeed ∉ pending ++ blocks.flatMap ByteArray.toList) :
    ((readPiece file piece pending fuel).run s).fed file blocks
      = some (((.ok (piece ++ (pending ++ blocks.flatMap ByteArray.toList)), []), s), []) := by
  induction blocks generalizing piece pending fuel with
  | nil =>
    obtain ⟨fuel, rfl⟩ := hfuel.exists_succ
    rw [List.flatMap_nil, List.append_nil] at hbytes ⊢
    exact fed_readPiece_end hbytes
  | cons block rest ih =>
    obtain ⟨fuel, rfl⟩ := hfuel.exists_succ
    obtain ⟨hblock, hrest⟩ := List.forall_mem_cons.1 hnonempty
    have hpending : lineFeed ∉ pending := fun hmem => hbytes (List.mem_append_left _ hmem)
    rw [fed_readPiece_block hpending hblock,
      ih _ hrest (hfuel.refill hpending) fun hmem => hbytes (List.mem_append_right _ hmem)]
    simp

/-- What a source gives is read off the piece it has read. -/
theorem fed_next_of_piece {others : List UInt8} {left : List ByteArray}
    (h : ((readPiece file [] pending maxBlocks).run s).fed file blocks
      = some (((.ok piece, others), s), left)) :
    ((next (descriptor file pending)).run s).fed file blocks
      = some (((itemOfPiece piece, descriptor file others), s), left) := by
  show Routine.fed file (((readPiece file [] pending maxBlocks).run s).bind _) blocks = _
  rw [fed_bind, h]
  rfl

/-- One line is read: what is given is for the first piece, and the others are still to come. -/
theorem fed_next {pieces : List (List UInt8)} (hreadable : Readable blocks)
    (hcut : Cut (pending ++ blocks.flatMap ByteArray.toList) pieces) :
    ∃ pending' blocks', Readable blocks' ∧
      Cut (pending' ++ blocks'.flatMap ByteArray.toList) pieces.tail ∧
      ((next (descriptor file pending)).run s).fed file blocks
        = some (((pieces.head?.map itemFor, descriptor file pending'), s), blocks') := by
  have hend : Readable ([] : List ByteArray) := hreadable.suffix (List.nil_suffix ..)
  have hrest (hfeedless : lineFeed ∉ pending ++ blocks.flatMap ByteArray.toList) :
      ((next (descriptor file pending)).run s).fed file blocks
        = some (((itemOfPiece (pending ++ blocks.flatMap ByteArray.toList), descriptor file []), s),
          []) :=
    fed_next_of_piece (fed_readPiece_rest [] hreadable.nonempty hreadable.suffices hfeedless)
  generalize hbytes : pending ++ blocks.flatMap ByteArray.toList = bytes at hcut hrest
  cases hcut with
  | nil => exact ⟨[], [], hend, .nil, hrest List.not_mem_nil⟩
  | last hne hfeedless =>
    refine ⟨[], [], hend, .nil, (hrest hfeedless).trans ?_⟩
    rw [itemOfPiece_of_ne_nil hne]
    rfl
  | cons hfront hothers =>
    obtain ⟨pending', blocks', hsuffix, hback, hline⟩ :=
      fed_readPiece_line [] hreadable.nonempty hreadable.suffices hfront hbytes
    refine ⟨pending', blocks', hreadable.suffix hsuffix, by rwa [hback],
      (fed_next_of_piece hline).trans ?_⟩
    rw [List.nil_append, itemOfPiece_of_ne_nil (List.append_ne_nil_of_right_ne_nil _ (by simp))]
    rfl

theorem fed_reads {pieces : List (List UInt8)} (n : Nat) (hreadable : Readable blocks)
    (hcut : Cut (pending ++ blocks.flatMap ByteArray.toList) pieces) :
    ∃ left, ((reads n (descriptor file pending)).run s).fed file blocks
      = some (((List.range n).map ((pieces.map itemFor)[·]?), s), left) := by
  induction n generalizing pending blocks pieces with
  | zero => exact ⟨blocks, rfl⟩
  | succ n ih =>
    obtain ⟨pending', blocks', hreadable', hcut', hnext⟩ := fed_next hreadable hcut
    obtain ⟨left, hothers⟩ := ih hreadable' hcut'
    refine ⟨left, ?_⟩
    have hrun : (reads (n + 1) (descriptor file pending)).run s
        = ((next (descriptor file pending)).run s).bind fun ran =>
          ((reads n ran.1.2).run ran.2).bind fun others =>
            .done (ran.1.1 :: others.1, others.2) := rfl
    rw [hrun, fed_bind, hnext]
    show Routine.fed file (Routine.bind _ _) blocks' = _
    rw [fed_bind, hothers, List.range_succ_eq_map]
    cases pieces <;> simp [Routine.fed_done, Function.comp_def]

end Feeding

end LineSource

/-! ## Lines written one behind the other -/

namespace WrittenLine

variable {line : WrittenLine} {rest : List WrittenLine}

theorem bytes_eq (line : WrittenLine) :
    line.bytes = Text.encode (line.text.toList ++ line.ending.text.toList) := by
  rw [bytes, Text.toList_toUTF8, String.toList_append]

theorem Separable.tail (h : Separable (line :: rest)) : Separable rest where
  feedless other hother := h.feedless other (List.mem_cons_of_mem _ hother)
  returnless other hother := h.returnless other (List.mem_cons_of_mem _ hother)
  ended other hother := by
    cases rest with
    | nil => cases hother
    | cons next others => exact h.ended other (List.mem_cons_of_mem _ hother)
  nonempty other hother := h.nonempty other (List.mem_cons_of_mem _ hother)

/-- A line with an end is a piece. -/
theorem exists_front (hfeedless : '\n' ∉ line.text.toList) (hended : line.ending ≠ .missing) :
    ∃ front, lineFeed ∉ front ∧ line.bytes = front ++ [lineFeed] := by
  rw [bytes_eq]
  cases hending : line.ending with
  | feed =>
    refine ⟨Text.encode line.text.toList, ?_, Text.encode_append ..⟩
    exact fun hmem => hfeedless (Text.mem_of_mem_encode (by decide) hmem)
  | carriageFeed =>
    refine ⟨Text.encode (line.text.toList ++ ['\r']), ?_, ?_⟩
    · intro hmem
      have hchar : '\n' ∈ line.text.toList ++ ['\r'] := Text.mem_of_mem_encode (by decide) hmem
      exact hfeedless (by simpa using hchar)
    · rw [Text.encode_append, Text.encode_append, List.append_assoc]
      rfl
  | missing => exact absurd hending hended

/-- A text is cut into the lines that are written in it. -/
theorem Separable.cut {lines : List WrittenLine} (h : Separable lines) :
    Cut (lines.flatMap bytes) (lines.map bytes) := by
  induction lines with
  | nil => exact .nil
  | cons line rest ih =>
    have hfeedless := h.feedless line List.mem_cons_self
    by_cases hended : line.ending = .missing
    · have hrest : rest = [] := by
        cases rest with
        | nil => rfl
        | cons next others => exact absurd hended (h.ended line List.mem_cons_self)
      have hbytes : line.bytes = Text.encode line.text.toList := by
        rw [bytes_eq, hended]
        simp [LineEnd.text]
      subst hrest
      rw [List.flatMap_cons, List.flatMap_nil, List.append_nil, List.map_singleton, hbytes]
      refine .last ?_ fun hmem => hfeedless (Text.mem_of_mem_encode (by decide) hmem)
      intro hnil
      exact h.nonempty line List.mem_cons_self hended
        (String.toList_eq_nil_iff.1 (Text.eq_nil_of_encode hnil))
    · obtain ⟨front, hfront, hbytes⟩ := exists_front hfeedless hended
      rw [List.flatMap_cons, List.map_cons, hbytes, List.append_assoc]
      exact .cons hfront (ih h.tail)

theorem givenAs_bytes (hfeedless : '\n' ∉ line.text.toList)
    (hreturnless : line.text.toList.getLast? ≠ some '\r') :
    GivenAs line.bytes (.line line.text) := by
  refine .line ?_ ?_
  · rw [bytes, Text.toList_eq_data]
    exact (line.text ++ line.ending.text).isValidUTF8
  · rw [bytes_eq, Text.toList_toUTF8]
    apply Stripped.encode
    cases line.ending with
    | feed => exact .feed hreturnless
    | carriageFeed => exact .both _
    | missing =>
      rw [show LineEnd.missing.text.toList = [] by rfl, List.append_nil]
      exact .neither fun hlast => hfeedless (List.mem_of_getLast? hlast)

end WrittenLine

/-! ## Reading gives the lines -/

/-- Bytes are cut in one way, and what a source that holds them gives, one time after another, is a
line or a fault for each piece and nothing from then on.  This holds of lines given beforehand, and
of an open file of which some bytes have been read and the others come in blocks, if no line takes
more of them than are read for one.  Lines that were written one behind the other come back as they
were. -/
theorem LineSource.reads_pieces (bytes : List UInt8) :
    ∃ pieces items, (∀ others, Cut bytes others ↔ others = pieces) ∧
      List.Forall₂ GivenAs pieces items ∧
      (∀ n, (ofBytes bytes).reads n = pure ((List.range n).map (items[·]?))) ∧
      (∀ (file : Descriptor) (pending : List UInt8) (blocks : List ByteArray) (s : Interpreter)
        (n : Nat), pending ++ blocks.flatMap ByteArray.toList = bytes → Readable blocks →
        ∃ left, (((descriptor file pending).reads n).run s).fed file blocks
          = some (((List.range n).map (items[·]?), s), left)) ∧
      ∀ lines, WrittenLine.Separable lines → lines.flatMap WrittenLine.bytes = bytes →
        items = lines.map fun line => .line line.text := by
  refine ⟨Text.cutLines [] bytes, (Text.cutLines [] bytes).map itemFor, fun _ => Text.cut_iff,
    ?_, ?_, ?_, ?_⟩
  · rw [List.forall₂_map_right_iff]
    exact List.forall₂_same.2 fun piece _ => givenAs_itemFor piece
  · intro n
    rw [ofBytes_eq, reads_items]
  · intro file pending blocks s n hbytes hreadable
    have hcut := Text.cut_cutLines (pending ++ blocks.flatMap ByteArray.toList)
    rw [← hbytes]
    exact fed_reads n hreadable hcut
  · intro lines hlines hbytes
    have hpieces := Text.cut_iff.1 hlines.cut
    rw [← hbytes, ← hpieces, List.map_map]
    apply List.map_congr_left
    intro line hline
    exact (givenAs_itemFor _).unique
      (WrittenLine.givenAs_bytes (hlines.feedless line hline) (hlines.returnless line hline))

/-- An empty line is not the end of the input, and a last line needs no end; the blocks of the file
fall into the middle of lines. -/
theorem LineSource.reads_pieces_mixed :
    let lines : List WrittenLine := [⟨"one", .carriageFeed⟩, ⟨"", .feed⟩, ⟨"two", .missing⟩]
    let items : List (Option SourceItem) :=
      [some (.line "one"), some (.line ""), some (.line "two"), none, none]
    let bytes := lines.flatMap WrittenLine.bytes
    let blocks : List ByteArray := ["e\r".toUTF8, "\n\ntw".toUTF8, "o".toUTF8]
    WrittenLine.Separable lines ∧ Readable blocks ∧
      "on".toUTF8.toList ++ blocks.flatMap ByteArray.toList = bytes ∧
      (ofBytes bytes).reads 5 = pure items ∧
      ∀ s, ∃ left, (((descriptor 0 "on".toUTF8.toList).reads 5).run s).fed 0 blocks
        = some ((items, s), left) := by
  intro lines items bytes blocks
  have hlines : WrittenLine.Separable lines :=
    ⟨by decide, by decide, by decide, by decide⟩
  have hblocks : Readable blocks := by
    refine ⟨?_, ?_⟩
    · simp only [blocks, List.forall_mem_cons, Text.toList_toUTF8]
      exact ⟨by decide, by decide, by decide, List.forall_mem_nil _⟩
    · intro run hrun _
      have hlength : run.length ≤ 3 := hrun.length_le
      exact Nat.lt_of_le_of_lt (Nat.succ_le_succ hlength) (by decide)
  have hbytes : "on".toUTF8.toList ++ blocks.flatMap ByteArray.toList = bytes := by
    simp only [bytes, lines, blocks, WrittenLine.bytes_eq, List.flatMap_cons, List.flatMap_nil,
      Text.toList_toUTF8]
    decide
  obtain ⟨pieces, given, _, _, hgiven, hfile, hback⟩ := reads_pieces bytes
  have hitems := hback lines hlines rfl
  refine ⟨hlines, hblocks, hbytes, ?_, ?_⟩
  · rw [hgiven, hitems]
    rfl
  · intro s
    obtain ⟨left, hleft⟩ := hfile 0 _ blocks s 5 hbytes hblocks
    refine ⟨left, ?_⟩
    rw [hleft, hitems]
    rfl

end CommandShell
