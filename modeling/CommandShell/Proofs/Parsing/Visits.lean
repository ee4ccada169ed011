import CommandShell.Proofs.Parsing.Tree
import CommandShell.Proofs.Parsing.Balance
set_option autoImplicit false

/-!
# Going through the arena

At the end of the tokens the arena is gone through twice: for the lengths of the paths down from the
root, with a list of slots still to be looked at, and for the command, where each draft is taken out
of its slot.  Since the arena is a tree, both come to an end, see no slot twice, and give what the
recursions over the arena as it stands give.
-/

namespace CommandShell

namespace Parser

/-! ## Depth -/

/-- Looks at slots with their distances from the root, the last one found first.  With enough turns
it gives its result and the slots it has looked at. -/
def checkDepth (slots : Slots) :
    Nat → List (SlotId × Nat) → Option (Except ParseError Unit × List SlotId)
  | _, [] => some (.ok (), [])
  | 0, _ :: _ => none
  | turns + 1, (id, depth) :: pending =>
    if maxDepth < depth then some (.error (.nestingTooDeep maxDepth), [])
    else
      let children := (childrenAt slots id).map fun child => (child, depth + 1)
      (checkDepth slots turns (children.reverse ++ pending)).map fun (result, visited) =>
        (result, id :: visited)

section Depth

variable {slots : Slots}

theorem withinDepth_succ (fuel : Nat) (id : SlotId) :
    withinDepth slots (fuel + 1) id = (childrenAt slots id).all (withinDepth slots fuel) := by
  unfold withinDepth childrenAt
  cases slots[id]?.join with
  | none => rfl
  | some draft => rfl

/-- No path is longer than the slots below are many. -/
theorem Spans.withinDepth {ids footprint : List SlotId} (h : Spans slots ids footprint) {fuel : Nat}
    (hfuel : footprint.length ≤ fuel) : ids.all (withinDepth slots fuel) = true := by
  induction h generalizing fuel with
  | nil => rfl
  | cons _ _ ihbelow ihrest =>
    rw [List.length_cons, List.length_append] at hfuel
    obtain ⟨fuel, rfl⟩ : ∃ fewer, fuel = fewer + 1 := ⟨fuel - 1, by omega⟩
    rw [List.all_cons, withinDepth_succ, ihbelow (by omega), ihrest (by omega), Bool.and_true]

/-- The paths down from slots at some distances from the root stay within the limit. -/
def allWithin (slots : Slots) (pending : List (SlotId × Nat)) : Bool :=
  pending.all fun entry => Parser.withinDepth slots (maxDepth + 1 - entry.2) entry.1

/-- Paths go on from the slots below, one step further away. -/
theorem allWithin_children {id : SlotId} {depth : Nat} {pending : List (SlotId × Nat)}
    (hdepth : depth ≤ maxDepth) :
    allWithin slots (((childrenAt slots id).map fun child => (child, depth + 1)).reverse ++ pending)
      = allWithin slots ((id, depth) :: pending) := by
  have hsteps : maxDepth + 1 - depth = maxDepth + 1 - (depth + 1) + 1 := by omega
  simp only [allWithin, List.all_append, List.all_reverse, List.all_map, List.all_cons,
    hsteps, withinDepth_succ]
  rfl

/-- The check says whether the paths down from the slots in the list are short enough, and sees each
slot below them once at most. -/
theorem Spans.checkDepth {pending : List (SlotId × Nat)} {footprint : List SlotId}
    (h : Spans slots (pending.map Prod.fst) footprint) {turns : Nat}
    (hturns : footprint.length ≤ turns) :
    ∃ visited, Parser.checkDepth slots turns pending = some
        (if allWithin slots pending then .ok () else .error (.nestingTooDeep maxDepth), visited) ∧
      ∀ x, visited.count x ≤ footprint.count x := by
  induction turns generalizing pending footprint with
  | zero =>
    obtain rfl := List.length_eq_zero_iff.1 (Nat.le_zero.1 hturns)
    cases pending with
    | nil => exact ⟨[], rfl, fun _ => Nat.le_refl _⟩
    | cons => nomatch h
  | succ turns ih =>
    match pending with
    | [] => exact ⟨[], rfl, fun _ => Nat.zero_le _⟩
    | (id, depth) :: pending =>
      have h : Spans slots (id :: pending.map Prod.fst) footprint := h
      obtain ⟨below, rest, rfl, hbelow, hrest⟩ := Spans.cons_iff.1 h
      rw [Parser.checkDepth]
      by_cases hdeep : maxDepth < depth
      · have hnone : maxDepth + 1 - depth = 0 := by omega
        have hlong : allWithin slots ((id, depth) :: pending) = false := by
          simp [allWithin, hnone, Parser.withinDepth]
        rw [if_pos hdeep, hlong]
        exact ⟨[], rfl, fun _ => Nat.zero_le _⟩
      · obtain ⟨below', hbelow', hperm⟩ := hbelow.reverse
        have hnext : Spans slots ((((childrenAt slots id).map fun child =>
            (child, depth + 1)).reverse ++ pending).map Prod.fst) (below' ++ rest) := by
          simpa [Function.comp_def] using hbelow'.append hrest
        have hlength : (below' ++ rest).length ≤ turns := by
          rw [List.length_append, hperm.length_eq, ← List.length_append]
          exact Nat.le_of_succ_le_succ hturns
        obtain ⟨visited, hcheck, hcount⟩ := ih hnext hlength
        rw [allWithin_children (Nat.le_of_not_lt hdeep)] at hcheck
        refine ⟨id :: visited, ?_, fun x => ?_⟩
        · rw [if_neg hdeep]
          dsimp only
          rw [hcheck]
          rfl
        · have hcount := hcount x
          rw [List.count_append, hperm.count_eq] at hcount
          rw [List.count_cons, List.count_cons, List.count_append]
          omega

end Depth

/-! ## Taking drafts out -/

/-- Where the walk through the arena stands. -/
structure Walk where
  /-- What is left of the arena. -/
  slots : Slots
  /-- The slots that have been looked at, in order. -/
  visited : List SlotId

/-- Steps of the walk. -/
abbrev WalkM := ExceptT ParseError (StateM Walk)

/-- Takes the draft out of a slot. -/
def take (id : SlotId) : WalkM (Option Draft) := do
  let walk ← get
  set (⟨walk.slots.setIfInBounds id none, walk.visited ++ [id]⟩ : Walk)
  return walk.slots[id]?.join

/-- The command of a slot, with the drafts below taken out of their slots on the way. -/
def buildTaking : Nat → SlotId → WalkM (Option Command)
  | 0, _ => throw (.nestingTooDeep maxDepth)
  | fuel + 1, slot => do
    match ← take slot with
    | none => return none
    | some (.simple program arguments) => return some (.ofWords program arguments.toList)
    | some (.sequence items enclosed) =>
      let commands ← items.toList.mapM (buildTaking fuel)
      match commands.filterMap id, enclosed with
      | [], true => throw .emptyScope
      | [], false => return none
      | commands, _ => return some (.sequential commands)
    | some (.binary connective primary secondary) =>
      let some primary ← buildTaking fuel primary
        | throw (.connectiveWithoutCommand connective)
      let some secondary ← buildTaking fuel secondary
        | throw (.connectiveWithoutOperand connective)
      return some (.binary connective primary secondary)
    | some (.redirection redirect primary path) =>
      let some primary ← buildTaking fuel primary | throw .redirectionWithoutCommand
      let some path := path | throw .redirectionWithoutPath
      return some (.redirection redirect primary path)

/-- As long as some slots are as they were in the arena, the walk comes to the result, and looks at
none but these, each in its turn. -/
def Walks {α : Type} (slots : Slots) (footprint : List SlotId) (walk : WalkM α)
    (result : Except ParseError α) : Prop :=
  ∀ before : Walk, (∀ x ∈ footprint, before.slots[x]? = slots[x]?) →
    ∃ remaining visited, walk.run.run before = (result, ⟨remaining, before.visited ++ visited⟩) ∧
      visited.Sublist footprint ∧ ∀ x ∉ footprint, remaining[x]? = before.slots[x]?

section Run

variable {α β : Type} {walk : WalkM α} {before after : Walk}

theorem run_bind_ok (next : α → WalkM β) {a : α} (h : walk.run.run before = (.ok a, after)) :
    (walk >>= next).run.run before = (next a).run.run after := by
  rw [ExceptT.run_bind, StateT.run_bind, h]
  rfl

theorem run_bind_error (next : α → WalkM β) {e : ParseError}
    (h : walk.run.run before = (.error e, after)) :
    (walk >>= next).run.run before = (.error e, after) := by
  rw [ExceptT.run_bind, StateT.run_bind, h]
  rfl

end Run

namespace Walks

variable {slots : Slots} {α β : Type} {footprint footprint' : List SlotId}

theorem pure (a : α) : Walks slots footprint (Pure.pure a) (.ok a) := fun before _ =>
  ⟨before.slots, [], by rw [List.append_nil]; rfl, List.nil_sublist _, fun _ _ => rfl⟩

theorem throw (e : ParseError) :
    Walks slots footprint (MonadExcept.throw e : WalkM α) (.error e) :=
  fun before _ =>
    ⟨before.slots, [], by rw [List.append_nil]; rfl, List.nil_sublist _, fun _ _ => rfl⟩

theorem take (id : SlotId) : Walks slots [id] (Parser.take id) (.ok slots[id]?.join) := by
  intro before hsame
  have hrun : (Parser.take id).run.run before = (.ok before.slots[id]?.join,
      ⟨before.slots.setIfInBounds id none, before.visited ++ [id]⟩) := rfl
  rw [hsame id (List.mem_singleton_self id)] at hrun
  refine ⟨_, _, hrun, List.Sublist.refl _, fun x hx => ?_⟩
  exact Array.getElem?_setIfInBounds_ne fun heq => hx (List.mem_singleton.2 heq.symm)

/-- What a walk has changed does not concern the next one, whose slots are others. -/
theorem bind {walk : WalkM α} {next : α → WalkM β} {result : Except ParseError α}
    {result' : α → Except ParseError β} (h : Walks slots footprint walk result)
    (hnext : ∀ a, result = .ok a → Walks slots footprint' (next a) (result' a))
    (hnodup : (footprint ++ footprint').Nodup) :
    Walks slots (footprint ++ footprint') (walk >>= next) (result >>= result') := by
  intro before hsame
  obtain ⟨remaining, visited, hrun, hvisited, hremaining⟩ :=
    h before fun x hx => hsame x (List.mem_append_left _ hx)
  cases result with
  | error e =>
    refine ⟨remaining, visited, run_bind_error next hrun,
      hvisited.trans (List.sublist_append_left ..), fun x hx => hremaining x ?_⟩
    exact fun hmem => hx (List.mem_append_left _ hmem)
  | ok a =>
    have hsame' : ∀ x ∈ footprint', remaining[x]? = slots[x]? := fun x hx => by
      have hother : x ∉ footprint := fun hmem => (List.nodup_append.1 hnodup).2.2 x hmem x hx rfl
      exact (hremaining x hother).trans (hsame x (List.mem_append_right _ hx))
    obtain ⟨remaining', visited', hrun', hvisited', hremaining'⟩ :=
      hnext a rfl ⟨remaining, before.visited ++ visited⟩ hsame'
    rw [List.append_assoc] at hrun'
    refine ⟨remaining', visited ++ visited', (run_bind_ok next hrun).trans hrun',
      hvisited.append hvisited', fun x hx => ?_⟩
    rw [List.mem_append, not_or] at hx
    exact (hremaining' x hx.2).trans (hremaining x hx.1)

/-- What follows a walk may look at nothing more. -/
theorem bind_nil {walk : WalkM α} {next : α → WalkM β} {result : Except ParseError α}
    {result' : α → Except ParseError β} (h : Walks slots footprint walk result)
    (hnext : ∀ a, result = .ok a → Walks slots [] (next a) (result' a))
    (hnodup : footprint.Nodup) : Walks slots footprint (walk >>= next) (result >>= result') := by
  rw [← List.append_nil footprint] at hnodup ⊢
  exact h.bind hnext hnodup

end Walks

section Build

variable {slots : Slots} {fuel : Nat}

/-- Slots side by side are gone through one after the other. -/
theorem Walks.mapM (hwalks : ∀ {id : SlotId} {footprint : List SlotId},
      Spans slots [id] footprint → footprint.Nodup →
      Walks slots footprint (buildTaking fuel id) (build slots fuel id))
    {ids footprint : List SlotId} (h : Spans slots ids footprint) (hnodup : footprint.Nodup) :
    Walks slots footprint (ids.mapM (buildTaking fuel)) (ids.mapM (build slots fuel)) := by
  induction h with
  | nil => exact .pure []
  | @cons id ids below rest hbelow _ _ ih =>
    have hnodup' : (id :: below ++ rest).Nodup := hnodup
    have hfirst := hwalks hbelow.single (List.nodup_append.1 hnodup').1
    rw [List.mapM_cons, List.mapM_cons]
    refine hfirst.bind (fun command _ => ?_) hnodup'
    have hrest := (List.nodup_append.1 hnodup').2.1
    exact (ih hrest).bind_nil (fun commands _ => .pure _) hrest

/-- Taking drafts out does not change what is built: no slot is looked at again. -/
theorem Spans.walks {slot : SlotId} {footprint : List SlotId} (h : Spans slots [slot] footprint)
    (hnodup : footprint.Nodup) :
    Walks slots footprint (buildTaking fuel slot) (build slots fuel slot) := by
  induction fuel generalizing slot footprint with
  | zero => exact .throw _
  | succ fuel ih =>
    obtain ⟨below, rest, rfl, hbelow, hrest⟩ := Spans.cons_iff.1 h
    obtain rfl : rest = [] := by
      cases hrest
      rfl
    rw [List.append_nil] at hnodup ⊢
    have hnodup' : below.Nodup := (List.nodup_cons.1 hnodup).2
    -- the result as well begins with the draft in the slot
    change Walks slots ([slot] ++ below) _
      (.ok slots[slot]?.join >>= fun _ => build slots (fuel + 1) slot)
    refine (Walks.take slot).bind (fun draft hdraft => ?_) hnodup
    obtain rfl := Except.ok.inj hdraft
    rw [build]
    unfold childrenAt at hbelow
    cases hslot : slots[slot]?.join with
    | none => exact .pure _
    | some draft =>
      rw [hslot] at hbelow
      cases draft with
      | simple program arguments => exact .pure _
      | sequence items enclosed =>
        refine (Walks.mapM ih hbelow hnodup').bind_nil (fun commands _ => ?_) hnodup'
        cases commands.filterMap id with
        | nil =>
          cases enclosed with
          | true => exact .throw _
          | false => exact .pure _
        | cons command commands => exact .pure _
      | binary connective primary secondary =>
        obtain ⟨before, rest, rfl, hfirst, hrest⟩ := Spans.cons_iff.1 hbelow
        have hnodup' : (primary :: before ++ rest).Nodup := hnodup'
        obtain ⟨hbefore, hafter, -⟩ := List.nodup_append.1 hnodup'
        refine (ih hfirst.single hbefore).bind (fun command _ => ?_) hnodup'
        cases command with
        | none => exact .throw _
        | some command =>
          refine (ih hrest hafter).bind_nil (fun command' _ => ?_) hafter
          cases command' with
          | none => exact .throw _
          | some command' => exact .pure _
      | redirection redirect primary path =>
        refine (ih hbelow hnodup').bind_nil (fun command _ => ?_) hnodup'
        cases command with
        | none => exact .throw _
        | some command =>
          cases path with
          | none => exact .throw _
          | some path => exact .pure _

end Build

/-! ## What can be missing -/

namespace State

variable {s : State} {fuel : Nat} {slot : SlotId} {e : ParseError}

/-- No draft has the root for its first operand. -/
theorem IsTree.primary_ne_root (hs : s.IsTree) {draft : Draft} {operand : SlotId}
    (hslot : s.slots[slot]? = some (some draft)) (hoperand : draft.primary? = some operand) :
    operand ≠ root := by
  rintro rfl
  have hrefers : Refers s.slots slot root := by
    rw [Refers, childrenAt_some hslot]
    cases draft <;> cases hoperand <;> simp [Draft.children]
  have hcount := hs.count_references root (Nat.zero_lt_of_lt (lt_size_of_refers hrefers))
  rw [if_pos rfl, List.count_eq_zero] at hcount
  exact hcount (Rooted.mem_references hrefers)

/-- Only empty slots and the sequence of the line come to nothing. -/
theorem IsTree.build_ne_none (hs : s.IsTree) {draft : Draft} (hne : slot ≠ root)
    (hslot : s.slots[slot]? = some (some draft)) : build s.slots fuel slot ≠ .ok none := by
  intro hbuild
  cases fuel with
  | zero => cases hbuild
  | succ fuel =>
    rw [build, hslot, Option.join_some] at hbuild
    cases draft with
    | simple => cases hbuild
    | sequence items enclosed =>
      obtain ⟨commands, -, hgather⟩ := exists_of_bind_eq_ok hbuild
      cases enclosed with
      | true =>
        generalize commands.filterMap id = found at hgather
        cases found <;> cases hgather
      | false => exact hne (hs.enclosed slot items hslot).1
    | binary =>
      obtain ⟨first, -, hnext⟩ := exists_of_bind_eq_ok hbuild
      cases first with
      | none => cases hnext
      | some first =>
        obtain ⟨second, -, hlast⟩ := exists_of_bind_eq_ok hnext
        cases second <;> cases hlast
    | redirection _ _ path =>
      obtain ⟨first, -, hnext⟩ := exists_of_bind_eq_ok hbuild
      cases first <;> cases path <;> cases hnext

/-- Building a command can only find a scope or a second operand empty. -/
theorem IsTree.build_error (hs : s.IsTree) (hpending : s.pendingPath = none)
    (hfuel : withinDepth s.slots fuel slot = true) (h : build s.slots fuel slot = .error e) :
    e = .emptyScope ∨ ∃ connective, e = .connectiveWithoutOperand connective := by
  induction fuel generalizing slot with
  | zero => cases hfuel
  | succ fuel ih =>
    rw [withinDepth_succ, List.all_eq_true, childrenAt] at hfuel
    rw [build] at h
    cases hslot : s.slots[slot]?.join with
    | none =>
      rw [hslot] at h
      cases h
    | some draft =>
      rw [hslot] at h hfuel
      have hdraft := Option.join_eq_some_iff.1 hslot
      -- the first operand, if there is one, comes to a command
      have hfirst : ∀ operand, draft.primary? = some operand →
          build s.slots fuel operand ≠ .ok none := by
        intro operand hoperand
        obtain ⟨filled, hfilled⟩ := hs.primary slot draft operand hdraft hoperand
        exact hs.build_ne_none (hs.primary_ne_root hdraft hoperand) hfilled
      cases draft with
      | simple => cases h
      | sequence items enclosed =>
        obtain hitems | ⟨commands, -, hgather⟩ := error_of_bind_eq_error h
        · obtain ⟨item, hitem, herror⟩ := exists_of_mapM_error hitems
          exact ih (hfuel item hitem) herror
        · generalize commands.filterMap id = found at hgather
          cases found <;> cases enclosed <;> cases hgather
          exact .inl rfl
      | binary connective primary secondary =>
        obtain hprimary | ⟨first, hprimary, hnext⟩ := error_of_bind_eq_error h
        · exact ih (hfuel primary (by simp [Draft.children])) hprimary
        cases first with
        | none => exact absurd hprimary (hfirst primary rfl)
        | some first =>
          obtain hsecondary | ⟨second, -, hlast⟩ := error_of_bind_eq_error hnext
          · exact ih (hfuel secondary (by simp [Draft.children])) hsecondary
          cases second <;> cases hlast
          exact .inr ⟨connective, rfl⟩
      | redirection redirect primary path =>
        obtain hprimary | ⟨first, hprimary, hnext⟩ := error_of_bind_eq_error h
        · exact ih (hfuel primary (by simp [Draft.children])) hprimary
        cases first with
        | none => exact absurd hprimary (hfirst primary rfl)
        | some first =>
          cases path with
          | none =>
            have hwaiting := hs.path slot redirect primary hdraft
            rw [hpending] at hwaiting
            cases hwaiting
          | some path => cases hnext

/-- At the end of the tokens building comes last, after the check for a pending path. -/
theorem IsTree.finish_error (hs : s.IsTree) (h : s.finish = .error e) :
    e = .redirectionWithoutPath ∧ s.pendingPath ≠ none ∨ e = .unbalancedOpen ∨
      e = .nestingTooDeep maxDepth ∨ e = .emptyScope ∨
      ∃ connective, e = .connectiveWithoutOperand connective := by
  obtain hcheck | ⟨_, hcheck, hnext⟩ := error_of_bind_eq_error h
  · refine .inl ⟨expectNoPendingPath_error hcheck, fun hnone => ?_⟩
    rw [expectNoPendingPath, hnone] at hcheck
    cases hcheck
  have hpending := pendingPath_eq_none hcheck
  by_cases hopen : s.scopes.length > (if s.rootSequence then 1 else 0)
  · rw [if_pos hopen] at hnext
    exact .inr (.inl (Except.error.inj hnext).symm)
  · rw [if_neg hopen] at hnext
    dsimp only at hnext
    cases hdeep : withinDepth s.slots (maxDepth + 1) root with
    | false =>
      rw [hdeep] at hnext
      exact .inr (.inr (.inl (Except.error.inj hnext).symm))
    | true =>
      rw [hdeep] at hnext
      exact .inr (.inr (.inr (hs.build_error hpending hdeep hnext)))

end State

/-- After any tokens that are taken the arena is a tree, and no word or separator is lost.  The check
of its depth and the building of its command come to an end after as many steps as there are slots,
look at no slot twice and give what the recursions over the whole arena give.  When no path is
pending, which is asked for before, only an empty scope or a missing second operand can be found;
and so these are the only errors that building adds to those of the checks at the end. -/
theorem arena_isTree {tokens : List Token} {s : State} (h : State.initial.steps tokens = .ok s) :
    s.IsTree ∧ s.KeepsTokens ∧
    (∀ turns, s.slots.size ≤ turns → ∃ visited, visited.Nodup ∧
      checkDepth s.slots turns [(root, 0)] = some
        (if withinDepth s.slots (maxDepth + 1) root then .ok ()
          else .error (.nestingTooDeep maxDepth), visited)) ∧
    (∀ fuel, ∃ remaining visited, visited.Nodup ∧
      (buildTaking fuel root).run.run ⟨s.slots, []⟩
        = (build s.slots fuel root, ⟨remaining, visited⟩)) ∧
    (∀ fuel, s.slots.size ≤ fuel → withinDepth s.slots fuel root = true ∧
      build s.slots fuel root = build s.slots s.slots.size root) ∧
    (s.pendingPath = none → ∀ fuel e, withinDepth s.slots fuel root = true →
      build s.slots fuel root = .error e →
      e = .emptyScope ∨ ∃ connective, e = .connectiveWithoutOperand connective) ∧
    (∀ e, s.finish = .error e →
      e = .redirectionWithoutPath ∧ s.pendingPath ≠ none ∨ e = .unbalancedOpen ∨
        e = .nestingTooDeep maxDepth ∨ e = .emptyScope ∨
        ∃ connective, e = .connectiveWithoutOperand connective) := by
  obtain ⟨hs, o, ho⟩ := State.WellFormed.initial.steps Mirrors.initial h
  have htree := hs.isTree ho
  obtain ⟨footprint, hholds, hperm⟩ := ho.holds
  have hspans := hholds.spans
  have hnodup : footprint.Nodup := hperm.nodup_iff.2 List.nodup_range
  have hlength : footprint.length = s.slots.size := by rw [hperm.length_eq, List.length_range]
  have hwithin : ∀ fuel, s.slots.size ≤ fuel → withinDepth s.slots fuel root = true := by
    intro fuel hfuel
    have hall := hspans.withinDepth (hlength.trans_le hfuel)
    rwa [List.all_cons, List.all_nil, Bool.and_true] at hall
  refine ⟨htree, htree.keepsTokens, fun turns hturns => ?_, fun fuel => ?_, fun fuel hfuel => ?_,
    fun hpending _ _ hfuel hbuild => htree.build_error hpending hfuel hbuild,
    fun _ herror => htree.finish_error herror⟩
  · have hroot : Spans s.slots ([(root, 0)].map Prod.fst) footprint := hspans
    obtain ⟨visited, hcheck, hcount⟩ := hroot.checkDepth (hlength.trans_le hturns)
    refine ⟨visited, List.nodup_iff_count_le_one.2 fun x => ?_, ?_⟩
    · exact (hcount x).trans (List.nodup_iff_count_le_one.1 hnodup x)
    · rw [hcheck, allWithin, List.all_cons, List.all_nil, Bool.and_true]
      rfl
  · have hwalks : Walks s.slots footprint (buildTaking fuel root) (build s.slots fuel root) :=
      hspans.walks hnodup
    obtain ⟨remaining, visited, hrun, hvisited, -⟩ := hwalks ⟨s.slots, []⟩ fun _ _ => rfl
    exact ⟨remaining, visited, hvisited.nodup hnodup, hrun⟩
  · have hdepth := fun fuel hfuel => (hholds.withinDepth_iff fuel).1 (hwithin fuel hfuel)
    refine ⟨hwithin fuel hfuel, ?_⟩
    rw [hholds.build_eq fuel (hdepth fuel hfuel), hholds.build_eq _ (hdepth _ (Nat.le_refl _))]

/-- In `(a > f; b) | (;)` the scope behind the pipe is found to be empty when the command is
built. -/
theorem arena_isTree_emptyScope : ∃ s, State.initial.steps
      [.operator .openScope, .word "a", .operator .outputRedirect, .word "f", .operator .sequence,
        .word "b", .operator .closeScope, .operator .pipe, .operator .openScope,
        .operator .sequence, .operator .closeScope] = .ok s ∧
    s.IsTree ∧ s.slots.size = 8 ∧ s.pendingPath = none ∧
    build s.slots (maxDepth + 1) root = .error .emptyScope := by
  have hsteps : ∃ s, State.initial.steps
      [.operator .openScope, .word "a", .operator .outputRedirect, .word "f", .operator .sequence,
        .word "b", .operator .closeScope, .operator .pipe, .operator .openScope,
        .operator .sequence, .operator .closeScope] = .ok s ∧
      s.slots.size = 8 ∧ s.pendingPath = none ∧
      build s.slots (maxDepth + 1) root = .error .emptyScope := ⟨_, rfl, rfl, rfl, rfl⟩
  obtain ⟨s, h, hrest⟩ := hsteps
  exact ⟨s, h, (arena_isTree h).1, hrest⟩

end Parser

end CommandShell
