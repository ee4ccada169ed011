import CommandShell.Proofs.Parsing.Grammar
import Mathlib.Data.List.Nodup
import Mathlib.Data.List.Pairwise
import Mathlib.Logic.Relation
set_option autoImplicit false

/-!
# The arena is a tree

Drafts refer to one another by slot, and the slots along the tree are not in order: what a slot held
moves to a new one when a connective or the first separator of a line wraps it.  Still the arena is
a tree below the root after any tokens that are taken.  Which slot belongs where is read off the
outline; what the drafts must hold, their operands and paths, is kept up by each token.
-/

namespace CommandShell

namespace Parser

/-! ## What the outline says -/

namespace Path

variable {slots : Slots} {id : SlotId} {frames : List Frame} {scopes : List Scope}
  {rootSequence : Bool} {above : List SlotId}

theorem root_mem (h : Path slots id frames scopes rootSequence above)
    (hroot : rootSequence = true) : Parser.root ∈ above := by
  induction h with
  | root => cases hroot
  | operand _ _ _ ih | scope _ _ _ ih =>
    exact List.mem_cons_of_mem _ (List.mem_append_right _ (ih hroot))
  | line => exact List.mem_cons_self ..

/-- The open scopes are those of sequences. -/
theorem sequence_of_mem (h : Path slots id frames scopes rootSequence above) {scope : Scope}
    (hscope : scope ∈ scopes) :
    ∃ items enclosed, slots[scope.sequence]? = some (some (.sequence items enclosed)) := by
  induction h with
  | root => cases hscope
  | operand _ _ _ ih => exact ih hscope
  | scope hslot _ _ ih =>
    obtain rfl | houter := List.mem_cons.1 hscope
    · exact ⟨_, _, hslot⟩
    · exact ih houter
  | line hslot =>
    obtain rfl := List.mem_singleton.1 hscope
    exact ⟨_, _, hslot⟩

end Path

theorem Alike.exists_mirrors {s : State} {result : Except ParseError Outline}
    (h : Alike (.ok s) result) : ∃ o, Mirrors s o := by
  cases h with
  | ok ho => exact ⟨_, ho⟩

namespace Mirrors

variable {s : State} {o : Outline}

theorem current_lt (h : Mirrors s o) : s.current < s.slots.size := by
  obtain ⟨hfocus, -, hperm⟩ := h
  obtain ⟨below, rfl, -⟩ := hfocus.move
  exact List.mem_range.1 (hperm.mem_iff.1 (List.mem_cons_self ..))

/-- Once the root is the sequence of the line, the current slot is one below. -/
theorem current_ne_root (h : Mirrors s o) (hroot : s.rootSequence = true) :
    s.current ≠ root := by
  obtain ⟨hfocus, hpath, hperm⟩ := h
  obtain ⟨below, rfl, -⟩ := hfocus.move
  rintro rfl
  have hnodup := List.nodup_cons.1 (hperm.nodup_iff.2 List.nodup_range)
  exact hnodup.1 (List.mem_append_right _ (hpath.root_mem hroot))

/-- The scope of the line stays open. -/
theorem rootSequence_eq_false (h : Mirrors s o) (hscopes : s.scopes = []) :
    s.rootSequence = false := by
  obtain ⟨-, hpath, -⟩ := h
  have hlength := hpath.one_le_length
  dsimp only at hscopes ⊢
  grind

/-- The root holds a sketch that takes up the arena. -/
theorem holds (h : Mirrors s o) : ∃ footprint,
    Holds s.slots root o.whole footprint ∧ footprint.Perm (List.range s.slots.size) := by
  obtain ⟨hfocus, hpath, hperm⟩ := h
  obtain ⟨footprint, hwhole, hperm'⟩ := hpath.whole hfocus
  exact ⟨footprint, hwhole, hperm'.trans hperm⟩

/-- The slot of a pending path is the current one, and has a redirection without a path. -/
theorem pending (h : Mirrors s o) {id : SlotId} (hid : s.pendingPath = some id) : id = s.current ∧
      ∃ redirect primary, s.slots[id]? = some (some (.redirection redirect primary none)) := by
  obtain ⟨hfocus, -, -⟩ := h
  dsimp only at hid ⊢
  split at hid
  · rename_i hpending
    obtain rfl := Option.some.inj hid
    cases hfocus with
    | empty | simple | sequence | binary => cases hpending
    | @redirection _ _ _ _ path _ hslot =>
      cases path with
      | none => exact ⟨rfl, _, _, hslot⟩
      | some => cases hpending
  · cases hid

end Mirrors

/-! ## What drafts need -/

/-- The slot of the operand that a draft has in front, if it has one. -/
@[grind]
def Draft.primary? : Draft → Option SlotId
  | binary _ primary _ | redirection _ primary _ => some primary
  | simple .. | sequence .. => none

namespace State

variable {s t : State} {o : Outline}

theorem draft?_eq_some_iff {id : SlotId} {draft : Draft} :
    s.draft? id = some draft ↔ s.slots[id]? = some (some draft) := Option.join_eq_some_iff

/-- Drafts have what they need: a path, unless it is the next word, and a first operand.  A sequence
without parentheses stands at the root only. -/
structure WellFormed (s : State) : Prop where
  path : ∀ (id : SlotId) (redirect : Redirect) (primary : SlotId),
    s.slots[id]? = some (some (.redirection redirect primary none)) → s.pendingPath = some id
  primary : ∀ (id : SlotId) (draft : Draft) (operand : SlotId), s.slots[id]? = some (some draft) →
    draft.primary? = some operand → ∃ filled, s.slots[operand]? = some (some filled)
  enclosed : ∀ (id : SlotId) (items : Array SlotId),
    s.slots[id]? = some (some (.sequence items false)) → id = root ∧ s.rootSequence = true
  restore_lt : ∀ scope ∈ s.scopes, scope.restore < s.slots.size

theorem pendingPath_eq_none {checked : Unit} (h : s.expectNoPendingPath = .ok checked) :
    s.pendingPath = none := by
  unfold expectNoPendingPath at h
  split at h
  · cases h
  · assumption

/-- What follows the check for a pending path is done without one. -/
theorem of_bind_expectNoPendingPath {next : Unit → Except ParseError State}
    (h : s.expectNoPendingPath >>= next = .ok t) : s.pendingPath = none ∧ next () = .ok t := by
  obtain ⟨_, hcheck, hnext⟩ := exists_of_bind_eq_ok h
  exact ⟨pendingPath_eq_none hcheck, hnext⟩

namespace WellFormed

/-! Each token adds slots at the end of the arena and fills some again.  What was filled stays so,
and a draft that moves is no redirection without a path, since no path is pending then. -/

theorem initial : initial.WellFormed := by
  unfold State.initial
  constructor <;> grind

theorem word {text : String} (hs : s.WellFormed) (h : s.word text = .ok t) : t.WellFormed := by
  obtain ⟨hpath, hprimary, henclosed, hrestore⟩ := hs
  unfold State.word at h
  split at h
  · split at h
    · rename_i hdraft
      obtain rfl := Except.ok.inj h
      rw [draft?_eq_some_iff] at hdraft
      constructor <;> dsimp only [fill] <;> grind
    · rename_i hnone
      obtain rfl := Except.ok.inj h
      simp only [draft?_eq_some_iff] at hnone
      constructor <;> grind
  · split at h
    · rename_i hnone
      obtain rfl := Except.ok.inj h
      constructor <;> dsimp only [fill] <;> grind
    · rename_i hdraft
      obtain rfl := Except.ok.inj h
      rw [draft?_eq_some_iff] at hdraft
      constructor <;> dsimp only [fill] <;> grind
    · cases h

theorem nextItem (hs : s.WellFormed) : s.nextItem.WellFormed := by
  obtain ⟨hpath, hprimary, henclosed, hrestore⟩ := hs
  unfold State.nextItem
  dsimp only
  split
  · rename_i hdraft
    rw [draft?_eq_some_iff] at hdraft
    constructor <;> dsimp only [fill, alloc] at hdraft ⊢ <;> grind
  · constructor <;> dsimp only [alloc] <;> grind

/-- The root's own scope comes once. -/
theorem openRootSequence (hs : s.WellFormed) (hpending : s.pendingPath = none)
    (hcurrent : s.current < s.slots.size) (hroot : s.rootSequence = false) :
    s.openRootSequence.WellFormed := by
  obtain ⟨hpath, hprimary, henclosed, hrestore⟩ := hs
  unfold State.openRootSequence
  split
  · rename_i hdraft
    rw [draft?_eq_some_iff] at hdraft
    constructor <;> dsimp only [fill, alloc] <;> grind
  · constructor <;> dsimp only [fill] <;> grind

theorem separator (hs : s.WellFormed) (hcurrent : s.current < s.slots.size)
    (hroot : s.scopes = [] → s.rootSequence = false) (h : s.separator = .ok t) : t.WellFormed := by
  obtain ⟨hpending, h⟩ := of_bind_expectNoPendingPath h
  obtain rfl := Except.ok.inj h
  split
  · rename_i hscopes
    have hopen := hs.openRootSequence hpending hcurrent (hroot (List.isEmpty_iff.1 hscopes))
    exact hopen.nextItem
  · exact hs.nextItem

/-- The sequence of the line is never the operand of a connective. -/
theorem connective {connective : Connective} (hs : s.WellFormed)
    (hroot : s.rootSequence = true → s.current ≠ root) (h : s.connective connective = .ok t) :
    t.WellFormed := by
  obtain ⟨hpath, hprimary, henclosed, hrestore⟩ := hs
  obtain ⟨hpending, h⟩ := of_bind_expectNoPendingPath h
  split at h
  · cases h
  · rename_i hdraft
    obtain rfl := Except.ok.inj h
    rw [draft?_eq_some_iff] at hdraft
    constructor <;> dsimp only [fill, alloc] <;> grind

theorem redirection {redirect : Redirect} (hs : s.WellFormed)
    (hroot : s.rootSequence = true → s.current ≠ root) (h : s.redirection redirect = .ok t) :
    t.WellFormed := by
  obtain ⟨hpath, hprimary, henclosed, hrestore⟩ := hs
  obtain ⟨hpending, h⟩ := of_bind_expectNoPendingPath h
  split at h
  · cases h
  · rename_i hdraft
    obtain rfl := Except.ok.inj h
    rw [draft?_eq_some_iff] at hdraft
    constructor <;> dsimp only [fill, alloc] <;> grind

theorem openScope (hs : s.WellFormed) (hcurrent : s.current < s.slots.size)
    (h : s.openScope = .ok t) : t.WellFormed := by
  obtain ⟨hpath, hprimary, henclosed, hrestore⟩ := hs
  obtain ⟨-, h⟩ := of_bind_expectNoPendingPath h
  split at h
  · cases h
  · obtain rfl := Except.ok.inj h
    constructor <;> dsimp only [fill, alloc] <;> grind

theorem closeScope (hs : s.WellFormed) (h : s.closeScope = .ok t) : t.WellFormed := by
  obtain ⟨-, h⟩ := of_bind_expectNoPendingPath h
  split at h
  · cases h
  · rename_i scope outer hscopes
    split at h
    · cases h
    · obtain rfl := Except.ok.inj h
      refine ⟨hs.path, hs.primary, hs.enclosed, fun scope' hscope' => hs.restore_lt scope' ?_⟩
      exact hscopes ▸ List.mem_cons_of_mem _ hscope'

/-- A token that is taken keeps this up, where the outline says what is at the current slot. -/
theorem step {token : Token} (hs : s.WellFormed) (ho : Mirrors s o) (h : s.step token = .ok t) :
    t.WellFormed := by
  cases token with
  | word text => exact hs.word h
  | operator op =>
    cases op with
    | sequence => exact hs.separator ho.current_lt ho.rootSequence_eq_false h
    | conjunction | disjunction | pipe => exact hs.connective ho.current_ne_root h
    | inputRedirect | outputRedirect | appendRedirect => exact hs.redirection ho.current_ne_root h
    | openScope => exact hs.openScope ho.current_lt h
    | closeScope => exact hs.closeScope h

theorem steps {tokens : List Token} (hs : s.WellFormed) (ho : Mirrors s o)
    (h : s.steps tokens = .ok t) : t.WellFormed ∧ ∃ o', Mirrors t o' := by
  unfold State.steps at h
  induction tokens generalizing s o with
  | nil =>
    obtain rfl : s = t := Except.ok.inj h
    exact ⟨hs, o, ho⟩
  | cons token tokens ih =>
    rw [List.foldlM_cons] at h
    obtain ⟨s₁, hstep, hrest⟩ := exists_of_bind_eq_ok h
    obtain ⟨o₁, ho₁⟩ := (hstep ▸ ho.step token).exists_mirrors
    exact ih (hs.step ho hstep) ho₁ hrest

end WellFormed

end State

/-! ## Slots that refer to slots -/

/-- The slots that the draft in a slot refers to. -/
def childrenAt (slots : Slots) (id : SlotId) : List SlotId :=
  match slots[id]?.join with
  | none => []
  | some draft => draft.children

/-- The slots that the drafts of the arena refer to. -/
def references (slots : Slots) : List SlotId :=
  (List.range slots.size).flatMap (childrenAt slots)

/-- The draft in the first slot refers to the second. -/
def Refers (slots : Slots) (id child : SlotId) : Prop := child ∈ childrenAt slots id

/-- The second list has the slots of the first and all below them, each before those below it. -/
inductive Spans (slots : Slots) : List SlotId → List SlotId → Prop where
  | nil : Spans slots [] []
  | cons {id ids below rest} :
    Spans slots (childrenAt slots id) below → Spans slots ids rest →
    Spans slots (id :: ids) (id :: (below ++ rest))

section

variable {slots : Slots}

theorem childrenAt_none {id : SlotId} (h : slots[id]? = some none) : childrenAt slots id = [] := by
  rw [childrenAt, h, Option.join_some]

theorem childrenAt_some {id : SlotId} {draft : Draft} (h : slots[id]? = some (some draft)) :
    childrenAt slots id = draft.children := by
  rw [childrenAt, h, Option.join_some]

namespace Spans

variable {id : SlotId} {ids ids' footprint footprint' : List SlotId}

/-- What is below the slots of a list is below the first, and below the others. -/
theorem cons_iff : Spans slots (id :: ids) footprint ↔ ∃ below rest,
    footprint = id :: (below ++ rest) ∧ Spans slots (childrenAt slots id) below ∧
      Spans slots ids rest := by
  constructor
  · rintro (_ | ⟨hbelow, hrest⟩)
    exact ⟨_, _, rfl, hbelow, hrest⟩
  · rintro ⟨below, rest, rfl, hbelow, hrest⟩
    exact .cons hbelow hrest

theorem single (h : Spans slots (childrenAt slots id) footprint) :
    Spans slots [id] (id :: footprint) := by
  have hcons := h.cons .nil
  rwa [List.append_nil] at hcons

theorem append (h : Spans slots ids footprint) (h' : Spans slots ids' footprint') :
    Spans slots (ids ++ ids') (footprint ++ footprint') := by
  induction h with
  | nil => exact h'
  | cons hbelow _ _ ih =>
    rw [List.cons_append, List.cons_append, List.append_assoc]
    exact .cons hbelow ih

/-- In another order the same slots are below. -/
theorem reverse (h : Spans slots ids footprint) :
    ∃ footprint', Spans slots ids.reverse footprint' ∧ footprint'.Perm footprint := by
  induction h with
  | nil => exact ⟨[], .nil, .refl _⟩
  | @cons id ids below rest hbelow _ _ ih =>
    obtain ⟨rest', hrest, hperm⟩ := ih
    rw [List.reverse_cons]
    exact ⟨_, hrest.append hbelow.single,
      List.perm_append_comm.trans ((hperm.append_left _).trans (.of_eq (List.cons_append ..)))⟩

/-- Each slot is one of the first or referred to once. -/
theorem references_perm (h : Spans slots ids footprint) :
    (ids ++ footprint.flatMap (childrenAt slots)).Perm footprint := by
  induction h with
  | nil => exact .refl _
  | @cons id ids below rest _ _ ihbelow ihrest =>
    refine List.perm_iff_count.2 fun x => ?_
    have hbelow := ihbelow.count_eq x
    have hrest := ihrest.count_eq x
    simp only [List.flatMap_cons, List.flatMap_append, List.count_append, List.count_cons,
      List.cons_append] at hbelow hrest ⊢
    omega

/-- Each slot is reached from one of the first. -/
theorem exists_reaches (h : Spans slots ids footprint) :
    ∀ x ∈ footprint, ∃ id ∈ ids, Relation.ReflTransGen (Refers slots) id x := by
  induction h with
  | nil => exact nofun
  | @cons id ids below rest _ _ ihbelow ihrest =>
    intro x hx
    obtain rfl | hx := List.mem_cons.1 hx
    · exact ⟨x, List.mem_cons_self .., .refl⟩
    · obtain hx | hx := List.mem_append.1 hx
      · obtain ⟨child, hchild, hreaches⟩ := ihbelow x hx
        exact ⟨id, List.mem_cons_self .., .head hchild hreaches⟩
      · obtain ⟨first, hfirst, hreaches⟩ := ihrest x hx
        exact ⟨first, List.mem_cons_of_mem _ hfirst, hreaches⟩

end Spans

mutual

/-- What a sketch takes up is its slot and those below. -/
theorem Holds.spans {id : SlotId} {sketch : Sketch} {footprint : List SlotId} :
    Holds slots id sketch footprint → Spans slots [id] footprint
  | .empty hslot => .single (by rw [childrenAt_none hslot]; exact .nil)
  | .simple hslot => .single (by rw [childrenAt_some hslot]; exact .nil)
  | .sequence hslot hitems => .single (childrenAt_some hslot ▸ hitems.spans)
  | .binary hslot hprimary hsecondary =>
    .single (childrenAt_some hslot ▸ hprimary.spans.append hsecondary.spans)
  | .redirection hslot hprimary => .single (childrenAt_some hslot ▸ hprimary.spans)

theorem HoldsAll.spans {ids : List SlotId} {sketches : List Sketch} {footprint : List SlotId} :
    HoldsAll slots ids sketches footprint → Spans slots ids footprint
  | .nil => .nil
  | .cons hfirst hrest => hfirst.spans.append hrest.spans

end

/-- Slots above the arena refer to nothing. -/
theorem lt_size_of_refers {id child : SlotId} (h : Refers slots id child) : id < slots.size := by
  unfold Refers childrenAt at h
  by_contra hge
  rw [Array.getElem?_eq_none (Nat.le_of_not_lt hge)] at h
  cases h

/-- With the root in front, the slots referred to are all there are, and each is named once. -/
structure Rooted (slots : Slots) : Prop where
  perm : (root :: references slots).Perm (List.range slots.size)
  reaches : ∀ id < slots.size, Relation.ReflTransGen (Refers slots) root id

theorem Spans.rooted {footprint : List SlotId} (h : Spans slots [root] footprint)
    (hperm : footprint.Perm (List.range slots.size)) : Rooted slots where
  perm := by
    have hreferences : (references slots).Perm (footprint.flatMap (childrenAt slots)) :=
      hperm.symm.flatMap_right _
    exact (hreferences.cons root).trans (h.references_perm.trans hperm)
  reaches id hid := by
    obtain ⟨first, hfirst, hreaches⟩ := h.exists_reaches id (hperm.mem_iff.2 (List.mem_range.2 hid))
    obtain rfl := List.mem_singleton.1 hfirst
    exact hreaches

namespace Rooted

variable {id parent parent' child : SlotId}

theorem mem_references (h : Refers slots parent child) : child ∈ references slots :=
  List.mem_flatMap.2 ⟨parent, List.mem_range.2 (lt_size_of_refers h), h⟩

theorem nodup (h : Rooted slots) : (root :: references slots).Nodup :=
  h.perm.nodup_iff.2 List.nodup_range

/-- References lead to allocated slots. -/
theorem lt_size (h : Rooted slots) (hchild : child ∈ references slots) : child < slots.size :=
  List.mem_range.1 (h.perm.mem_iff.1 (List.mem_cons_of_mem _ hchild))

theorem count_references (h : Rooted slots) (hid : id < slots.size) :
    (references slots).count id = if id = root then 0 else 1 := by
  have hcount : (root :: references slots).count id = 1 :=
    List.count_eq_one_of_mem h.nodup (h.perm.mem_iff.2 (List.mem_range.2 hid))
  rw [List.count_cons] at hcount
  grind

/-- Nothing refers to the root. -/
theorem not_refers_root (h : Rooted slots) : ¬ Refers slots parent root := fun hroot =>
  (List.nodup_cons.1 h.nodup).1 (mem_references hroot)

/-- No slot is referred to from two. -/
theorem parent_unique (h : Rooted slots) (hparent : Refers slots parent child)
    (hparent' : Refers slots parent' child) : parent = parent' := by
  have hdisjoint := (List.nodup_flatMap.1 (List.nodup_cons.1 h.nodup).2).2
  have hsymm : Std.Symm (Function.onFun List.Disjoint (childrenAt slots)) :=
    ⟨fun _ _ h _ hx hy => h hy hx⟩
  by_contra hne
  exact hdisjoint.forall (List.mem_range.2 (lt_size_of_refers hparent))
    (List.mem_range.2 (lt_size_of_refers hparent')) hne hparent hparent'

/-- By induction on the way down from the root: a cycle through a slot would come back to it from
its parent, and so go through the parent as well. -/
theorem acyclic (h : Rooted slots) (id : SlotId) : ¬ Relation.TransGen (Refers slots) id id := by
  intro hcycle
  obtain ⟨child, hchild, -⟩ := Relation.TransGen.head'_iff.1 hcycle
  have hreaches := h.reaches id (lt_size_of_refers hchild)
  clear hchild
  induction hreaches with
  | refl =>
    obtain ⟨parent, -, hroot⟩ := Relation.TransGen.tail'_iff.1 hcycle
    exact h.not_refers_root hroot
  | @tail parent id _ hparent ih =>
    obtain ⟨parent', hback, hparent'⟩ := Relation.TransGen.tail'_iff.1 hcycle
    obtain rfl := h.parent_unique hparent hparent'
    exact ih (.head' hparent hback)

end Rooted

end

/-! ## The state of the parser -/

namespace State

/-- The slots that a state names: in its drafts, as the current one, in the open scopes and for the
pending path. -/
def mentions (s : State) : List SlotId :=
  references s.slots ++ s.current :: s.scopes.flatMap (fun scope => [scope.sequence, scope.restore])
    ++ s.pendingPath.toList

/-- The arena is a tree of well-formed drafts, and the state stands in it. -/
structure IsTree (s : State) : Prop extends s.WellFormed where
  /-- Every slot that is named has been allocated. -/
  lt_size : ∀ id ∈ s.mentions, id < s.slots.size
  /-- Nothing refers to the root, and to any other slot one reference of one draft. -/
  count_references : ∀ id < s.slots.size,
    (references s.slots).count id = if id = root then 0 else 1
  reaches : ∀ id < s.slots.size, Relation.ReflTransGen (Refers s.slots) root id
  acyclic : ∀ id, ¬ Relation.TransGen (Refers s.slots) id id
  scope : ∀ scope ∈ s.scopes,
    ∃ items enclosed, s.slots[scope.sequence]? = some (some (.sequence items enclosed))
  pending : ∀ id, s.pendingPath = some id → id = s.current ∧
    ∃ redirect primary, s.slots[id]? = some (some (.redirection redirect primary none))

variable {s : State} {o : Outline}

theorem WellFormed.isTree (hs : s.WellFormed) (ho : Mirrors s o) : s.IsTree := by
  obtain ⟨footprint, hholds, hperm⟩ := ho.holds
  have hrooted := hholds.spans.rooted hperm
  have hscope : ∀ scope ∈ s.scopes,
      ∃ items enclosed, s.slots[scope.sequence]? = some (some (.sequence items enclosed)) := by
    obtain ⟨-, hpath, -⟩ := ho
    exact fun scope => hpath.sequence_of_mem
  refine { hs with
    lt_size := fun id hid => ?_
    count_references := fun id => hrooted.count_references
    reaches := hrooted.reaches
    acyclic := hrooted.acyclic
    scope := hscope
    pending := fun id => ho.pending }
  simp only [mentions, List.mem_append, List.mem_cons, List.mem_flatMap, Option.mem_toList,
    List.not_mem_nil, or_false] at hid
  obtain (hreference | rfl | ⟨scope, hmem, rfl | rfl⟩) | hpending := hid
  · exact hrooted.lt_size hreference
  · exact ho.current_lt
  · obtain ⟨items, enclosed, hslot⟩ := hscope scope hmem
    exact (Array.getElem?_eq_some_iff.1 hslot).1
  · exact hs.restore_lt scope hmem
  · exact (ho.pending hpending).1 ▸ ho.current_lt

/-- No word or separator is lost: a word that a redirection waits for becomes its path, and the item
that a separator starts goes to the end of the sequence of the innermost scope, or of the one that
the root becomes. -/
structure KeepsTokens (s : State) : Prop where
  word : ∀ (id : SlotId) (text : String), s.pendingPath = some id →
    ∃ redirect primary t, s.slots[id]? = some (some (.redirection redirect primary none)) ∧
      s.word text = .ok t ∧ t.pendingPath = none ∧
      t.slots[id]? = some (some (.redirection redirect primary (some text)))
  separator : s.pendingPath = none →
    ∃ scope outer items enclosed t, s.separator = .ok t ∧ t.scopes = scope :: outer ∧
      t.slots[scope.sequence]? = some (some (.sequence (items.push t.current) enclosed)) ∧
      t.slots[t.current]? = some none ∧
      (s.scopes = scope :: outer ∧
        s.slots[scope.sequence]? = some (some (.sequence items enclosed)) ∨
      s.scopes = [] ∧ scope.sequence = root)

/-- The sequence of the innermost scope takes the next item. -/
theorem nextItem_slots {slots : Slots} {current : SlotId} (scope : Scope) {outer : List Scope}
    {rootSequence enclosed : Bool} {items : Array SlotId}
    (hslot : slots[scope.sequence]? = some (some (.sequence items enclosed))) :
    let t := nextItem ⟨slots, current, scope :: outer, rootSequence, none⟩
    t.scopes = scope :: outer ∧
      t.slots[scope.sequence]? = some (some (.sequence (items.push t.current) enclosed)) ∧
      t.slots[t.current]? = some none := by
  have hlt := (Array.getElem?_eq_some_iff.1 hslot).1
  dsimp only
  rw [nextItem_eq hslot]
  refine ⟨rfl, Array.getElem?_setIfInBounds_self_of_lt ?_, ?_⟩
  · rw [Array.size_push]
    exact Nat.lt_succ_of_lt hlt
  · rw [Array.getElem?_setIfInBounds_ne (Nat.ne_of_lt hlt), Array.getElem?_push_size]

/-- The root becomes the sequence of the line. -/
theorem openRootSequence_slots {slots : Slots} (current : SlotId) (rootSequence : Bool)
    (hroot : root < slots.size) : ∃ slots' items,
      openRootSequence ⟨slots, current, [], rootSequence, none⟩
        = ⟨slots', current, [⟨root, current⟩], true, none⟩ ∧
      slots'[root]? = some (some (.sequence items false)) := by
  unfold openRootSequence
  split
  · refine ⟨_, _, rfl, Array.getElem?_setIfInBounds_self_of_lt ?_⟩
    exact Nat.lt_of_lt_of_eq (Nat.lt_succ_of_lt hroot) (Array.size_push _).symm
  · exact ⟨_, _, rfl, Array.getElem?_setIfInBounds_self_of_lt hroot⟩

theorem IsTree.keepsTokens (hs : s.IsTree) : s.KeepsTokens where
  word id text hid := by
    obtain ⟨-, redirect, primary, hslot⟩ := hs.pending id hid
    have hword : s.word text = .ok
        { s.fill id (some (.redirection redirect primary (some text))) with pendingPath := none } := by
      rw [State.word, hid]
      dsimp only
      rw [draft?_eq_some_iff.2 hslot]
    have hlt := (Array.getElem?_eq_some_iff.1 hslot).1
    exact ⟨redirect, primary, _, hslot, hword, rfl, Array.getElem?_setIfInBounds_self_of_lt hlt⟩
  separator hpending := by
    have hcurrent := hs.lt_size s.current (by simp [mentions])
    have hroot : root < s.slots.size := Nat.zero_lt_of_lt hcurrent
    rcases s with ⟨slots, current, scopes, rootSequence, pendingPath⟩
    obtain rfl : pendingPath = none := hpending
    cases scopes with
    | cons scope outer =>
      obtain ⟨items, enclosed, hslot⟩ := hs.scope scope (List.mem_cons_self ..)
      obtain ⟨hscopes, hitems, hnext⟩ := nextItem_slots scope hslot
      exact ⟨scope, outer, items, enclosed, _, rfl, hscopes, hitems, hnext, .inl ⟨rfl, hslot⟩⟩
    | nil =>
      obtain ⟨slots', items, heq, hslot⟩ := openRootSequence_slots current rootSequence hroot
      obtain ⟨hscopes, hitems, hnext⟩ := nextItem_slots ⟨root, current⟩ hslot
      have hseparator : separator ⟨slots, current, [], rootSequence, none⟩
          = .ok (nextItem ⟨slots', current, [⟨root, current⟩], true, none⟩) :=
        congrArg (Except.ok ∘ nextItem) heq
      exact ⟨_, [], items, false, _, hseparator, hscopes, hitems, hnext, .inr ⟨rfl, rfl⟩⟩

end State

end Parser

end CommandShell
