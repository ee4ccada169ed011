import CommandShell.Proofs.Parsing.Outline
set_option autoImplicit false

/-!
# The arena mirrors the outline

After any tokens the arena of the parser holds an outline: a sketch below the current slot, and
frames on the way from there up to the root.  Every slot belongs to one node of it, so that a slot
can be filled again without a change to anything else.  Each token keeps this up, and so the parser
gives what the parser on outlines gives, errors included.
-/

namespace CommandShell

namespace Parser

/-! ## Sketches in the arena -/

mutual

/-- A slot of the arena holds a sketch, and these are the slots it takes up. -/
inductive Holds (slots : Slots) : SlotId → Sketch → List SlotId → Prop where
  | empty {id} : slots[id]? = some none → Holds slots id .empty [id]
  | simple {id program arguments} :
    slots[id]? = some (some (.simple program arguments)) →
    Holds slots id (.simple program arguments.toList) [id]
  | sequence {id ids enclosed items footprint} :
    slots[id]? = some (some (.sequence ids enclosed)) →
    HoldsAll slots ids.toList items footprint →
    Holds slots id (.sequence items enclosed) (id :: footprint)
  | binary {id connective primaryId secondaryId primary secondary footprint footprint'} :
    slots[id]? = some (some (.binary connective primaryId secondaryId)) →
    Holds slots primaryId primary footprint → Holds slots secondaryId secondary footprint' →
    Holds slots id (.binary connective primary secondary) (id :: (footprint ++ footprint'))
  | redirection {id redirect primaryId primary path footprint} :
    slots[id]? = some (some (.redirection redirect primaryId path)) →
    Holds slots primaryId primary footprint →
    Holds slots id (.redirection redirect primary path) (id :: footprint)

/-- Slots of the arena hold sketches, and these are the slots they take up. -/
inductive HoldsAll (slots : Slots) : List SlotId → List Sketch → List SlotId → Prop where
  | nil : HoldsAll slots [] [] []
  | cons {id ids sketch sketches footprint footprint'} :
    Holds slots id sketch footprint → HoldsAll slots ids sketches footprint' →
    HoldsAll slots (id :: ids) (sketch :: sketches) (footprint ++ footprint')

end

section Congruence

variable {slots slots' : Slots}

mutual

/-- What is in other slots does not matter. -/
theorem Holds.congr {id : SlotId} {sketch : Sketch} {footprint : List SlotId} :
    Holds slots id sketch footprint → (∀ x ∈ footprint, slots'[x]? = slots[x]?) →
      Holds slots' id sketch footprint
  | .empty hslot, hsame => .empty ((hsame _ (List.mem_cons_self ..)).trans hslot)
  | .simple hslot, hsame => .simple ((hsame _ (List.mem_cons_self ..)).trans hslot)
  | .sequence hslot hitems, hsame =>
    .sequence ((hsame _ (List.mem_cons_self ..)).trans hslot)
      (hitems.congr fun x hx => hsame x (List.mem_cons_of_mem _ hx))
  | .binary hslot hprimary hsecondary, hsame =>
    .binary ((hsame _ (List.mem_cons_self ..)).trans hslot)
      (hprimary.congr fun x hx =>
        hsame x (List.mem_cons_of_mem _ (List.mem_append_left _ hx)))
      (hsecondary.congr fun x hx =>
        hsame x (List.mem_cons_of_mem _ (List.mem_append_right _ hx)))
  | .redirection hslot hprimary, hsame =>
    .redirection ((hsame _ (List.mem_cons_self ..)).trans hslot)
      (hprimary.congr fun x hx => hsame x (List.mem_cons_of_mem _ hx))

theorem HoldsAll.congr {ids : List SlotId} {sketches : List Sketch} {footprint : List SlotId} :
    HoldsAll slots ids sketches footprint → (∀ x ∈ footprint, slots'[x]? = slots[x]?) →
      HoldsAll slots' ids sketches footprint
  | .nil, _ => .nil
  | .cons hfirst hrest, hsame =>
    .cons (hfirst.congr fun x hx => hsame x (List.mem_append_left _ hx))
      (hrest.congr fun x hx => hsame x (List.mem_append_right _ hx))

end

end Congruence

theorem HoldsAll.append {slots : Slots} {ids ids' : List SlotId} {sketches sketches' : List Sketch}
    {footprint footprint' : List SlotId} (h : HoldsAll slots ids sketches footprint)
    (h' : HoldsAll slots ids' sketches' footprint') :
    HoldsAll slots (ids ++ ids') (sketches ++ sketches') (footprint ++ footprint') := by
  match h with
  | .nil => exact h'
  | .cons hfirst hrest =>
    rw [List.append_assoc]
    exact .cons hfirst (hrest.append h')

theorem HoldsAll.push {slots : Slots} {ids : Array SlotId} {id : SlotId} {sketches : List Sketch}
    {sketch : Sketch} {footprint footprint' : List SlotId}
    (h : HoldsAll slots ids.toList sketches footprint) (h' : Holds slots id sketch footprint') :
    HoldsAll slots (ids.push id).toList (sketches ++ [sketch]) (footprint ++ footprint') := by
  have hlast : HoldsAll slots [id] [sketch] (footprint' ++ []) := .cons h' .nil
  rw [List.append_nil] at hlast
  rw [Array.toList_push]
  exact h.append hlast

namespace Holds

variable {slots slots' : Slots} {id : SlotId} {sketch : Sketch} {footprint : List SlotId}

/-- A sketch can be moved: its top goes to another slot, the rest stays where it is. -/
theorem move (h : Holds slots id sketch footprint) :
    ∃ below, footprint = id :: below ∧ ∀ {slots' : Slots} {id' : SlotId},
      slots'[id']? = slots[id]? → (∀ x ∈ below, slots'[x]? = slots[x]?) →
      Holds slots' id' sketch (id' :: below) := by
  cases h with
  | empty hslot => exact ⟨[], rfl, fun htop _ => .empty (htop.trans hslot)⟩
  | simple hslot => exact ⟨[], rfl, fun htop _ => .simple (htop.trans hslot)⟩
  | sequence hslot hitems =>
    exact ⟨_, rfl, fun htop hsame => .sequence (htop.trans hslot) (hitems.congr hsame)⟩
  | binary hslot hprimary hsecondary =>
    exact ⟨_, rfl, fun htop hsame => .binary (htop.trans hslot)
      (hprimary.congr fun x hx => hsame x (List.mem_append_left _ hx))
      (hsecondary.congr fun x hx => hsame x (List.mem_append_right _ hx))⟩
  | redirection hslot hprimary =>
    exact ⟨_, rfl, fun htop hsame => .redirection (htop.trans hslot) (hprimary.congr hsame)⟩

/-- The slot of an empty sketch is empty. -/
theorem draft_empty {s : State} (h : Holds s.slots id .empty footprint) : s.draft? id = none := by
  cases h with
  | empty hslot => rw [State.draft?, hslot, Option.join_some]

/-- The slot of any other sketch is not. -/
theorem draft_filled {s : State} (h : Holds s.slots id sketch footprint)
    (hfilled : sketch.isEmpty = false) :
    ∃ draft, s.draft? id = some draft ∧ s.slots[id]? = some (some draft) := by
  cases h with
  | empty => cases hfilled
  | simple hslot => exact ⟨_, by rw [State.draft?, hslot, Option.join_some], hslot⟩
  | sequence hslot => exact ⟨_, by rw [State.draft?, hslot, Option.join_some], hslot⟩
  | binary hslot => exact ⟨_, by rw [State.draft?, hslot, Option.join_some], hslot⟩
  | redirection hslot => exact ⟨_, by rw [State.draft?, hslot, Option.join_some], hslot⟩

end Holds

/-! ## The way up -/

/-- The slots on the way from a place up to the root hold its frames, and are those of the open
scopes.  The last list is what the frames take up, without the place. -/
inductive Path (slots : Slots) :
    SlotId → List Frame → List Scope → (rootSequence : Bool) → List SlotId → Prop where
  | root : Path slots root [] [] false []
  | operand {slot connective primaryId id primary footprint frames scopes rootSequence above} :
    slots[slot]? = some (some (.binary connective primaryId id)) →
    Holds slots primaryId primary footprint →
    Path slots slot frames scopes rootSequence above →
    Path slots id (.operand connective primary :: frames) scopes rootSequence
      (slot :: (footprint ++ above))
  | scope {slot id before footprint frames scopes rootSequence above} {ids : Array SlotId} :
    slots[slot]? = some (some (.sequence (ids.push id) true)) →
    HoldsAll slots ids.toList before footprint →
    Path slots slot frames scopes rootSequence above →
    Path slots id (.item before true :: frames) (⟨slot, slot⟩ :: scopes) rootSequence
      (slot :: (footprint ++ above))
  | line {id before footprint restore} {ids : Array SlotId} :
    slots[root]? = some (some (.sequence (ids.push id) false)) →
    HoldsAll slots ids.toList before footprint →
    Path slots id [.item before false] [⟨root, restore⟩] true (root :: footprint)

namespace Path

variable {slots slots' : Slots} {id : SlotId} {sketch : Sketch} {frames : List Frame}
  {scopes : List Scope} {rootSequence : Bool} {footprint above : List SlotId}

/-- What is in other slots does not matter. -/
theorem congr (h : Path slots id frames scopes rootSequence above)
    (hsame : ∀ x ∈ above, slots'[x]? = slots[x]?) :
    Path slots' id frames scopes rootSequence above := by
  induction h with
  | root => exact .root
  | operand hslot hprimary _ ih =>
    refine .operand ((hsame _ (List.mem_cons_self ..)).trans hslot) (hprimary.congr ?_) (ih ?_)
    · exact fun x hx => hsame x (List.mem_cons_of_mem _ (List.mem_append_left _ hx))
    · exact fun x hx => hsame x (List.mem_cons_of_mem _ (List.mem_append_right _ hx))
  | scope hslot hitems _ ih =>
    refine .scope ((hsame _ (List.mem_cons_self ..)).trans hslot) (hitems.congr ?_) (ih ?_)
    · exact fun x hx => hsame x (List.mem_cons_of_mem _ (List.mem_append_left _ hx))
    · exact fun x hx => hsame x (List.mem_cons_of_mem _ (List.mem_append_right _ hx))
  | line hslot hitems =>
    exact .line ((hsame _ (List.mem_cons_self ..)).trans hslot)
      (hitems.congr fun x hx => hsame x (List.mem_cons_of_mem _ hx))

/-- One step up, the slot of a frame and what it holds beside a place are taken up with the place. -/
theorem perm_frame (slot : SlotId) (beside footprint above : List SlotId) :
    (slot :: (beside ++ footprint) ++ above).Perm (footprint ++ slot :: (beside ++ above)) := by
  refine List.perm_iff_count.2 fun x => ?_
  simp only [List.count_append, List.count_cons]
  omega

/-- Where the operands around a place end there is the item that they belong to. -/
theorem climb (h : Path slots id frames scopes rootSequence above)
    (hplace : Holds slots id sketch footprint) :
    ∃ id' footprint' above', Holds slots id' (climb sketch frames).1 footprint' ∧
      Path slots id' (climb sketch frames).2 scopes rootSequence above' ∧
      (footprint' ++ above').Perm (footprint ++ above) := by
  induction h generalizing sketch footprint with
  | root => exact ⟨_, _, _, hplace, .root, .refl _⟩
  | operand hslot hprimary _ ih =>
    obtain ⟨id', footprint', above', hitem, hpath, hperm⟩ :=
      ih (.binary hslot hprimary hplace)
    exact ⟨id', footprint', above', hitem, hpath, hperm.trans (perm_frame ..)⟩
  | scope hslot hitems hpath => exact ⟨_, _, _, hplace, .scope hslot hitems hpath, .refl _⟩
  | line hslot hitems => exact ⟨_, _, _, hplace, .line hslot hitems, .refl _⟩

/-- The root holds the whole, which takes up what the place and the way up to the root do. -/
theorem whole (h : Path slots id frames scopes rootSequence above)
    (hplace : Holds slots id sketch footprint) :
    ∃ footprint', Holds slots Parser.root (Outline.whole ⟨sketch, frames⟩) footprint' ∧
      footprint'.Perm (footprint ++ above) := by
  induction h generalizing sketch footprint with
  | root => exact ⟨_, hplace, by rw [List.append_nil]⟩
  | operand hslot hprimary _ ih =>
    obtain ⟨footprint', hwhole, hperm⟩ := ih (.binary hslot hprimary hplace)
    exact ⟨footprint', hwhole, hperm.trans (perm_frame ..)⟩
  | scope hslot hitems _ ih =>
    obtain ⟨footprint', hwhole, hperm⟩ := ih (.sequence hslot (hitems.push hplace))
    exact ⟨footprint', hwhole, hperm.trans (perm_frame ..)⟩
  | @line _ _ beside _ _ hslot hitems =>
    have hperm := perm_frame Parser.root beside footprint []
    rw [List.append_nil, List.append_nil] at hperm
    exact ⟨_, .sequence hslot (hitems.push hplace), hperm⟩

/-- The scope of the line is one of the scopes. -/
theorem one_le_length (h : Path slots id frames scopes rootSequence above) :
    (if rootSequence then 1 else 0) ≤ scopes.length := by
  induction h with
  | root => exact Nat.le_refl _
  | operand _ _ _ ih => exact ih
  | scope _ _ _ ih => exact Nat.le_succ_of_le ih
  | line => exact Nat.le_refl _

/-- A scope between parentheses is open just when there are more scopes than that of the line. -/
theorem any_isScope (h : Path slots id frames scopes rootSequence above) :
    frames.any Frame.isScope = decide ((if rootSequence then 1 else 0) < scopes.length) := by
  induction h with
  | root => rfl
  | operand _ _ _ ih => exact ih
  | scope _ _ hpath => exact (decide_eq_true (Nat.lt_succ_of_le hpath.one_le_length)).symm
  | line => rfl

end Path

/-! ## Depth and build -/

section Build

variable {slots : Slots}

mutual

/-- The limit on paths down from a slot is one on the depth of its sketch. -/
theorem Holds.withinDepth_iff {id : SlotId} {sketch : Sketch} {footprint : List SlotId}
    (h : Holds slots id sketch footprint) :
    ∀ fuel, withinDepth slots fuel id = true ↔ sketch.depth < fuel
  | 0 => by simp [withinDepth]
  | fuel + 1 => by
    match h with
    | .empty hslot => simp [withinDepth, hslot, Sketch.depth]
    | .simple hslot => simp [withinDepth, hslot, Draft.children, Sketch.depth]
    | .sequence hslot hitems =>
      simp only [withinDepth, hslot, Option.join_some, Draft.children, Sketch.depth_sequence]
      exact (hitems.withinDepth_iff fuel).trans Nat.lt_succ_iff.symm
    | .binary hslot hprimary hsecondary =>
      simp only [withinDepth, hslot, Option.join_some, Draft.children, Sketch.depth_binary,
        List.all_cons, List.all_nil, Bool.and_true, Bool.and_eq_true,
        hprimary.withinDepth_iff fuel, hsecondary.withinDepth_iff fuel]
      omega
    | .redirection hslot hprimary =>
      simp only [withinDepth, hslot, Option.join_some, Draft.children,
        Sketch.depth_redirection, List.all_cons, List.all_nil, Bool.and_true, hprimary.withinDepth_iff fuel]
      omega

theorem HoldsAll.withinDepth_iff {ids : List SlotId} {sketches : List Sketch}
    {footprint : List SlotId} (h : HoldsAll slots ids sketches footprint) (fuel : Nat) :
    ids.all (withinDepth slots fuel) = true ↔ Sketch.depth.depths sketches ≤ fuel := by
  match h with
  | .nil => simp [Sketch.depth.depths]
  | .cons hfirst hrest =>
    simp only [List.all_cons, Bool.and_eq_true, hfirst.withinDepth_iff fuel,
      hrest.withinDepth_iff fuel, Sketch.depths_cons]
    omega

end

mutual

/-- What a slot comes to is what its sketch comes to, within the limit. -/
theorem Holds.build_eq {id : SlotId} {sketch : Sketch} {footprint : List SlotId}
    (h : Holds slots id sketch footprint) :
    ∀ fuel, sketch.depth < fuel → build slots fuel id = sketch.build
  | 0, hdepth => absurd hdepth (Nat.not_lt_zero _)
  | fuel + 1, hdepth => by
    match h with
    | .empty hslot => simp [build, hslot, Sketch.build]
    | .simple hslot => simp [build, hslot, Sketch.build]
    | .sequence hslot hitems =>
      rw [Sketch.depth_sequence] at hdepth
      simp only [build, hslot, Option.join_some, Sketch.build_sequence,
        hitems.build_eq fuel (Nat.le_of_lt_succ hdepth)]
      rfl
    | .binary hslot hprimary hsecondary =>
      rw [Sketch.depth_binary] at hdepth
      simp only [build, hslot, Option.join_some, Sketch.build_binary,
        hprimary.build_eq fuel (by omega), hsecondary.build_eq fuel (by omega)]
      rfl
    | .redirection hslot hprimary =>
      rw [Sketch.depth_redirection] at hdepth
      simp only [build, hslot, Option.join_some, Sketch.build_redirection,
        hprimary.build_eq fuel (by omega)]
      rfl

theorem HoldsAll.build_eq {ids : List SlotId} {sketches : List Sketch} {footprint : List SlotId}
    (h : HoldsAll slots ids sketches footprint) (fuel : Nat)
    (hdepth : Sketch.depth.depths sketches ≤ fuel) :
    ids.mapM (build slots fuel) = Sketch.buildAll sketches := by
  match h with
  | .nil => rfl
  | .cons hfirst hrest =>
    rw [Sketch.depths_cons] at hdepth
    rw [List.mapM_cons, hfirst.build_eq fuel (by omega), hrest.build_eq fuel (by omega),
      Sketch.buildAll_cons]

end

end Build

/-! ## Tokens -/

/-- The arena holds the outline, each slot is taken up by one node of it, and a redirection waits
for its path just when it stands at the current slot without one. -/
inductive Mirrors : State → Outline → Prop where
  | intro {slots current scopes rootSequence focus frames footprint above} :
    Holds slots current focus footprint →
    Path slots current frames scopes rootSequence above →
    (footprint ++ above).Perm (List.range slots.size) →
    Mirrors ⟨slots, current, scopes, rootSequence, if focus.isPending then some current else none⟩
      ⟨focus, frames⟩

/-- Both parsers fail with the same error, or the arena still holds the outline. -/
inductive Alike : Except ParseError State → Except ParseError Outline → Prop where
  | ok {s o} : Mirrors s o → Alike (.ok s) (.ok o)
  | error (e : ParseError) : Alike (.error e) (.error e)

/-- What a token does to the arena: slots are added at its end, one slot is filled again, and no
other one is changed. -/
structure Renewed (slots : Slots) (id : SlotId) (draft : Option Draft)
    (added : List (Option Draft)) (others : List SlotId) (slots' : Slots) : Prop where
  size_eq : slots'.size = slots.size + added.length
  filled : slots'[id]? = some draft
  added_eq : ∀ i, slots'[slots.size + i]? = added[i]?
  same : ∀ x ∈ others, slots'[x]? = slots[x]?

/-- When each slot is taken up once, the others are not the one that is filled. -/
theorem Renewed.of_perm {slots : Slots} {id : SlotId} {others : List SlotId}
    (hperm : (id :: others).Perm (List.range slots.size)) (draft : Option Draft)
    (added : List (Option Draft)) :
    Renewed slots id draft added others
      ((added.foldl Array.push slots).setIfInBounds id draft) := by
  have hlt : ∀ x ∈ id :: others, x < slots.size := fun x hx =>
    List.mem_range.1 (hperm.mem_iff.1 hx)
  have hid : ∀ i, id < slots.size + i := fun i =>
    Nat.lt_of_lt_of_le (hlt id (List.mem_cons_self ..)) (Nat.le_add_right ..)
  have hnodup := List.nodup_cons.1 (hperm.nodup_iff.2 List.nodup_range)
  have hsize : (slots ++ added.toArray).size = slots.size + added.length :=
    Array.size_append.trans (congrArg _ List.size_toArray)
  rw [List.foldl_push_eq_append']
  refine ⟨?_, ?_, fun i => ?_, fun x hx => ?_⟩
  · rw [Array.size_setIfInBounds, hsize]
  · exact Array.getElem?_setIfInBounds_self_of_lt (hsize ▸ hid _)
  · rw [Array.getElem?_setIfInBounds_ne (Nat.ne_of_lt (hid i)),
      Array.getElem?_append_right (Nat.le_add_right ..), Nat.add_sub_cancel_left,
      List.getElem?_toArray]
  · have hne : id ≠ x := by
      rintro rfl
      exact hnodup.1 hx
    rw [Array.getElem?_setIfInBounds_ne hne,
      Array.getElem?_append_left (hlt x (List.mem_cons_of_mem _ hx))]

/-- A new slot is one more that is taken up. -/
theorem perm_range_succ {ids ids' : List SlotId} {size : Nat} (h : ids.Perm (List.range size))
    (hids : ids'.Perm (size :: ids)) : ids'.Perm (List.range (size + 1)) := by
  rw [List.range_succ]
  exact hids.trans ((h.cons size).trans (List.perm_append_singleton ..).symm)

namespace Mirrors

variable {s : State} {o : Outline}

theorem initial : Mirrors State.initial Outline.initial := by
  have hroot : Holds #[none] root .empty [root] := .empty rfl
  exact .intro hroot .root (.refl _)

/-- Filling the current slot again, without a change to what it refers to. -/
theorem refill {slots : Slots} {current : SlotId} {scopes : List Scope} {rootSequence : Bool}
    {frames : List Frame} {focus : Sketch} {below above : List SlotId} {draft : Option Draft}
    (hfocus : Holds (slots.setIfInBounds current draft) current focus (current :: below))
    (hpath : Path slots current frames scopes rootSequence above)
    (hperm : (current :: below ++ above).Perm (List.range slots.size)) :
    Mirrors ⟨slots.setIfInBounds current draft, current, scopes, rootSequence,
      if focus.isPending then some current else none⟩ ⟨focus, frames⟩ := by
  have hrenewed := Renewed.of_perm hperm draft []
  refine .intro hfocus (hpath.congr ?_) (by rwa [Array.size_setIfInBounds])
  exact fun x hx => hrenewed.same x (List.mem_append_right _ hx)

theorem word (h : Mirrors s o) (text : String) : Alike (s.word text) (o.word text) := by
  obtain ⟨hfocus, hpath, hperm⟩ := h
  rename_i slots current scopes rootSequence focus frames footprint above
  have hcurrent : ∀ below, footprint = current :: below → current < slots.size := by
    rintro below rfl
    exact List.mem_range.1 (hperm.mem_iff.1 (List.mem_cons_self ..))
  cases hfocus with
  | empty hslot =>
    have hnew : Holds (slots.setIfInBounds current (some (.simple text #[]))) current
        (.simple text []) [current] :=
      .simple (Array.getElem?_setIfInBounds_self_of_lt (hcurrent _ rfl))
    simp only [State.word, State.draft?, hslot, Sketch.isPending]
    exact .ok (refill hnew hpath hperm)
  | @simple _ program arguments hslot =>
    have hnew : Holds (slots.setIfInBounds current (some (.simple program (arguments.push text))))
        current (.simple program (arguments.toList ++ [text])) [current] := by
      rw [← Array.toList_push]
      exact .simple (Array.getElem?_setIfInBounds_self_of_lt (hcurrent _ rfl))
    simp only [State.word, State.draft?, hslot, Sketch.isPending]
    exact .ok (refill hnew hpath hperm)
  | sequence hslot =>
    simp only [State.word, State.draft?, hslot, Sketch.isPending]
    exact .error _
  | binary hslot =>
    simp only [State.word, State.draft?, hslot, Sketch.isPending]
    exact .error _
  | @redirection _ redirect primaryId primary path below hslot hprimary =>
    cases path with
    | none =>
      have hnew : Holds
          (slots.setIfInBounds current (some (.redirection redirect primaryId (some text))))
          current (.redirection redirect primary (some text)) (current :: below) := by
        refine .redirection (Array.getElem?_setIfInBounds_self_of_lt (hcurrent _ rfl))
          (hprimary.congr fun x hx => ?_)
        exact (Renewed.of_perm hperm _ []).same x (List.mem_append_left _ hx)
      simp only [State.word, State.draft?, Sketch.isPending, if_true, hslot, Option.join_some]
      exact .ok (refill hnew hpath hperm)
    | some path =>
      simp only [State.word, State.draft?, hslot, Sketch.isPending]
      exact .error _

/-- Whatever comes after the check for a pending path may rely on there being none. -/
theorem checked (h : Mirrors s o) {next : State → Except ParseError State}
    {next' : Outline → Except ParseError Outline}
    (hnext : ∀ {slots current scopes rootSequence focus frames below above},
      focus.isPending = false → Holds slots current focus (current :: below) →
      Path slots current frames scopes rootSequence above →
      (current :: (below ++ above)).Perm (List.range slots.size) →
      Alike (next ⟨slots, current, scopes, rootSequence, none⟩) (next' ⟨focus, frames⟩)) :
    Alike (s.expectNoPendingPath >>= fun _ => next s)
      (o.expectNoPendingPath >>= fun _ => next' o) := by
  obtain ⟨hfocus, hpath, hperm⟩ := h
  rename_i focus _ _ _
  unfold State.expectNoPendingPath Outline.expectNoPendingPath
  cases hpending : focus.isPending with
  | true => exact .error _
  | false =>
    obtain ⟨below, rfl, -⟩ := hfocus.move
    exact hnext hpending hfocus hpath hperm

theorem connective (h : Mirrors s o) (connective : Connective) :
    Alike (s.connective connective) (o.connective connective) := by
  unfold State.connective Outline.connective
  apply checked h
  intro slots current scopes rootSequence focus frames below above _ hfocus hpath hperm
  cases hempty : focus.isEmpty with
  | true =>
    obtain rfl := Sketch.isEmpty_iff.1 hempty
    rw [hfocus.draft_empty (s := ⟨slots, current, scopes, rootSequence, none⟩)]
    exact .error _
  | false =>
    obtain ⟨draft, hdraft, hslot⟩ :=
      hfocus.draft_filled (s := ⟨slots, current, scopes, rootSequence, none⟩) hempty
    rw [hdraft]
    have hrenewed := Renewed.of_perm hperm
      (some (.binary connective slots.size (slots.size + 1))) [some draft, none]
    obtain ⟨_, ⟨⟩, hmove⟩ := hfocus.move
    have hprimary := hmove ((hrenewed.added_eq 0).trans hslot.symm) fun x hx =>
      hrenewed.same x (List.mem_append_left _ hx)
    have hpath' := hpath.congr fun x hx => hrenewed.same x (List.mem_append_right _ hx)
    refine .ok (.intro (.empty (hrenewed.added_eq 1))
      (.operand hrenewed.filled hprimary hpath') ?_)
    rw [hrenewed.size_eq]
    exact perm_range_succ (perm_range_succ hperm (.swap ..)) (.refl _)

theorem redirection (h : Mirrors s o) (redirect : Redirect) :
    Alike (s.redirection redirect) (o.redirection redirect) := by
  unfold State.redirection Outline.redirection
  apply checked h
  intro slots current scopes rootSequence focus frames below above _ hfocus hpath hperm
  cases hempty : focus.isEmpty with
  | true =>
    obtain rfl := Sketch.isEmpty_iff.1 hempty
    rw [hfocus.draft_empty (s := ⟨slots, current, scopes, rootSequence, none⟩)]
    exact .error _
  | false =>
    obtain ⟨draft, hdraft, hslot⟩ :=
      hfocus.draft_filled (s := ⟨slots, current, scopes, rootSequence, none⟩) hempty
    rw [hdraft]
    have hrenewed := Renewed.of_perm hperm (some (.redirection redirect slots.size none))
      [some draft]
    obtain ⟨_, ⟨⟩, hmove⟩ := hfocus.move
    have hprimary := hmove ((hrenewed.added_eq 0).trans hslot.symm) fun x hx =>
      hrenewed.same x (List.mem_append_left _ hx)
    have hpath' := hpath.congr fun x hx => hrenewed.same x (List.mem_append_right _ hx)
    refine .ok (.intro (.redirection hrenewed.filled hprimary) hpath' ?_)
    rw [hrenewed.size_eq]
    exact perm_range_succ hperm (.swap ..)

theorem openScope (h : Mirrors s o) : Alike s.openScope o.openScope := by
  unfold State.openScope Outline.openScope
  apply checked h
  intro slots current scopes rootSequence focus frames below above _ hfocus hpath hperm
  cases hempty : focus.isEmpty with
  | false =>
    obtain ⟨draft, hdraft, -⟩ :=
      hfocus.draft_filled (s := ⟨slots, current, scopes, rootSequence, none⟩) hempty
    rw [hdraft]
    exact .error _
  | true =>
    obtain rfl := Sketch.isEmpty_iff.1 hempty
    rw [hfocus.draft_empty (s := ⟨slots, current, scopes, rootSequence, none⟩)]
    have hrenewed := Renewed.of_perm hperm (some (.sequence #[slots.size] true)) [none]
    cases hfocus
    have hpath' := hpath.congr fun x hx => hrenewed.same x hx
    have hsequence : _ = some (some (Draft.sequence (#[].push slots.size) true)) :=
      hrenewed.filled
    refine .ok (.intro (.empty (hrenewed.added_eq 0)) (.scope hsequence .nil hpath') ?_)
    rw [hrenewed.size_eq]
    exact perm_range_succ hperm (.refl _)

theorem closeScope (h : Mirrors s o) : Alike s.closeScope o.closeScope := by
  unfold State.closeScope Outline.closeScope
  apply checked h
  intro slots current scopes rootSequence focus frames below above _ hfocus hpath hperm
  obtain ⟨id, footprint, above', hitem, hpath', hperm'⟩ := hpath.climb hfocus
  have hne := climb_ne_operand focus frames
  dsimp only
  generalize climb focus frames = climbed at hitem hpath' hne ⊢
  rcases climbed with ⟨sketch, frames'⟩
  cases hpath' with
  | root => exact .error _
  | operand => exact absurd rfl (hne _ _ _)
  | @scope slot _ before footprint' frames' outer _ above'' ids hslot hitems hpath'' =>
    have hkept : (outer.isEmpty && rootSequence) = false := by
      have hlength := hpath''.one_le_length
      cases outer <;> cases rootSequence <;> simp_all
    have hclosed : Holds slots slot (.sequence (before ++ [sketch]) true)
        (slot :: (footprint' ++ footprint)) := .sequence hslot (hitems.push hitem)
    simp only [hkept, Bool.false_eq_true, if_false]
    refine .ok (.intro hclosed hpath'' ((List.perm_iff_count.2 fun x => ?_).trans
      (hperm'.trans hperm)))
    simp only [List.count_append, List.count_cons]
    omega
  | line => exact .error _

end Mirrors

/-- The next item goes to the end of the sequence of the innermost scope. -/
theorem nextItem_eq {slots : Slots} {current restore slot : SlotId} {outer : List Scope}
    {rootSequence enclosed : Bool} {ids : Array SlotId}
    (hslot : slots[slot]? = some (some (.sequence ids enclosed))) :
    State.nextItem ⟨slots, current, ⟨slot, restore⟩ :: outer, rootSequence, none⟩
      = ⟨(slots.push none).setIfInBounds slot
          (some (.sequence (ids.push slots.size) enclosed)), slots.size,
        ⟨slot, restore⟩ :: outer, rootSequence, none⟩ := by
  have hlt : slot < slots.size := (Array.getElem?_eq_some_iff.1 hslot).1
  have hdraft : (slots.push none)[slot]?.join = some (.sequence ids enclosed) := by
    rw [Array.getElem?_push_lt hlt, ← Array.getElem?_eq_getElem hlt, hslot, Option.join_some]
  simp [State.nextItem, State.alloc, State.draft?, State.fill, hdraft]

namespace Mirrors

variable {s : State} {o : Outline}

/-- Above all operands a scope gets its next item. -/
theorem nextItem {slots : Slots} {current restore slot : SlotId} {outer : List Scope}
    {rootSequence enclosed : Bool} {ids : Array SlotId} {before : List Sketch}
    {frames : List Frame} {footprint above : List SlotId}
    (hslot : slots[slot]? = some (some (.sequence ids enclosed)))
    (hitems : HoldsAll slots ids.toList before footprint)
    (hperm : (slot :: (footprint ++ above)).Perm (List.range slots.size))
    (hpath : ∀ slots' : Slots, slots'[slot]? = some (some (.sequence (ids.push slots.size)
        enclosed)) → HoldsAll slots' ids.toList before footprint →
      (∀ x ∈ above, slots'[x]? = slots[x]?) →
      Path slots' slots.size (.item before enclosed :: frames) (⟨slot, restore⟩ :: outer)
        rootSequence (slot :: (footprint ++ above))) :
    Mirrors (State.nextItem ⟨slots, current, ⟨slot, restore⟩ :: outer, rootSequence, none⟩)
      ⟨.empty, .item before enclosed :: frames⟩ := by
  rw [nextItem_eq hslot]
  have hrenewed := Renewed.of_perm hperm (some (.sequence (ids.push slots.size) enclosed)) [none]
  have hpath' := hpath _ hrenewed.filled
    (hitems.congr fun x hx => hrenewed.same x (List.mem_append_left _ hx))
    fun x hx => hrenewed.same x (List.mem_append_right _ hx)
  refine .intro (.empty (hrenewed.added_eq 0)) hpath' ?_
  rw [hrenewed.size_eq]
  exact perm_range_succ hperm (.refl _)

/-- The first separator of a line makes what the root holds the first item. -/
theorem openRootSequence {slots : Slots} {current : SlotId} {sketch : Sketch}
    {footprint : List SlotId} (hroot : Holds slots root sketch footprint)
    (hperm : footprint.Perm (List.range slots.size)) :
    Mirrors (State.nextItem (State.openRootSequence ⟨slots, current, [], false, none⟩))
      ⟨.empty, [.item (Outline.firstItem sketch) false]⟩ := by
  cases hempty : sketch.isEmpty with
  | true =>
    obtain rfl := Sketch.isEmpty_iff.1 hempty
    unfold State.openRootSequence
    rw [hroot.draft_empty (s := ⟨slots, current, [], false, none⟩)]
    cases hroot with
    | empty hslot =>
      have hrenewed := Renewed.of_perm hperm (some (.sequence #[] false)) []
      have hperm' : (root :: ([] ++ [])).Perm
          (List.range (slots.setIfInBounds root (some (.sequence #[] false))).size) := by
        rwa [Array.size_setIfInBounds]
      exact nextItem hrenewed.filled .nil hperm' fun _ hslot' hitems' _ => .line hslot' hitems'
  | false =>
    obtain ⟨draft, hdraft, hslot⟩ :=
      hroot.draft_filled (s := ⟨slots, current, [], false, none⟩) hempty
    unfold State.openRootSequence
    rw [hdraft]
    obtain ⟨below, rfl, hmove⟩ := hroot.move
    have hrenewed := Renewed.of_perm hperm (some (.sequence #[slots.size] false)) [some draft]
    have hfirst := hmove ((hrenewed.added_eq 0).trans hslot.symm) hrenewed.same
    have hperm' : ∀ size, size = slots.size + 1 →
        (root :: ([] ++ (slots.size :: below) ++ [])).Perm (List.range size) := by
      rintro _ rfl
      rw [List.append_nil]
      exact perm_range_succ hperm (.swap ..)
    rw [Outline.firstItem, hempty]
    refine nextItem hrenewed.filled (.push .nil hfirst) (hperm' _ hrenewed.size_eq)
      fun _ hslot' hitems' _ => ?_
    rw [List.append_nil]
    exact .line hslot' hitems'

theorem separator (h : Mirrors s o) : Alike s.separator o.separator := by
  unfold State.separator Outline.separator
  apply checked h
  intro slots current scopes rootSequence focus frames below above _ hfocus hpath hperm
  obtain ⟨id, footprint, above', hitem, hpath', hperm'⟩ := hpath.climb hfocus
  have hne := climb_ne_operand focus frames
  dsimp only
  generalize climb focus frames = climbed at hitem hpath' hne ⊢
  rcases climbed with ⟨sketch, frames'⟩
  have hperm'' := hperm'.trans hperm
  cases hpath' with
  | root =>
    rw [List.append_nil] at hperm''
    exact .ok (openRootSequence hitem hperm'')
  | operand => exact absurd rfl (hne _ _ _)
  | scope hslot hitems hpath'' =>
    refine .ok (nextItem hslot (hitems.push hitem) ((List.perm_iff_count.2 fun x => ?_).trans
      hperm'') fun _ hslot' hitems' hsame => .scope hslot' hitems' (hpath''.congr hsame))
    simp only [List.count_append, List.count_cons]
    omega
  | @line _ before footprint' _ ids hslot hitems =>
    have htaken : (root :: (footprint' ++ footprint ++ [])).Perm (List.range slots.size) := by
      refine (List.perm_iff_count.2 fun x => ?_).trans hperm''
      simp only [List.count_append, List.count_cons, List.count_nil]
      omega
    refine .ok (nextItem hslot (hitems.push hitem) htaken fun _ hslot' hitems' _ => ?_)
    rw [List.append_nil]
    exact .line hslot' hitems'

theorem step (h : Mirrors s o) (token : Token) : Alike (s.step token) (o.step token) := by
  cases token with
  | word text => exact h.word text
  | operator op =>
    cases op with
    | sequence => exact h.separator
    | conjunction => exact h.connective .conjunction
    | disjunction => exact h.connective .disjunction
    | pipe => exact h.connective .pipe
    | inputRedirect => exact h.redirection .input
    | outputRedirect => exact h.redirection .output
    | appendRedirect => exact h.redirection .append
    | openScope => exact h.openScope
    | closeScope => exact h.closeScope

theorem steps (h : Mirrors s o) (tokens : List Token) :
    Alike (s.steps tokens) (o.steps tokens) := by
  unfold State.steps Outline.steps
  induction tokens generalizing s o with
  | nil => exact .ok h
  | cons token tokens ih =>
    rw [List.foldlM_cons, List.foldlM_cons]
    have hstep := h.step token
    generalize s.step token = next at hstep ⊢
    generalize o.step token = next' at hstep ⊢
    cases hstep with
    | ok h' => exact ih h'
    | error e => exact .error e

/-- At the end the arena comes to what the outline comes to. -/
theorem finish (h : Mirrors s o) : s.finish = o.finish := by
  obtain ⟨hfocus, hpath, -⟩ := h
  rename_i slots current scopes rootSequence focus frames footprint above
  obtain ⟨footprint', hwhole, -⟩ := hpath.whole hfocus
  have hscopes := hpath.any_isScope
  have hdepth := hwhole.withinDepth_iff (maxDepth + 1)
  unfold State.finish Outline.finish State.expectNoPendingPath Outline.expectNoPendingPath
  dsimp only
  cases focus.isPending with
  | true => rfl
  | false =>
    by_cases hopen : (if rootSequence then 1 else 0) < scopes.length
    · rw [hscopes, decide_eq_true hopen, if_pos (show scopes.length > _ from hopen)]
      rfl
    · rw [hscopes, decide_eq_false hopen, if_neg (show ¬ scopes.length > _ from hopen)]
      by_cases hdeep : maxDepth < (Outline.whole ⟨focus, frames⟩).depth
      · have hnot : withinDepth slots (maxDepth + 1) root = false :=
          Bool.eq_false_iff.2 fun h => by have := hdepth.1 h; omega
        rw [hnot, if_pos hdeep]
        rfl
      · have hwithin := hdepth.2 (by omega)
        rw [hwithin, if_neg hdeep, ← hwhole.build_eq (maxDepth + 1) (by omega)]
        rfl

end Mirrors

/-- The parser does what the parser on outlines does. -/
theorem parse_eq (tokens : List Token) :
    parse tokens = Outline.initial.steps tokens >>= Outline.finish := by
  have hsteps := Mirrors.initial.steps tokens
  rw [parse]
  generalize State.initial.steps tokens = last at hsteps ⊢
  generalize Outline.initial.steps tokens = last' at hsteps ⊢
  cases hsteps with
  | ok h => exact h.finish
  | error e => rfl

end Parser

end CommandShell
