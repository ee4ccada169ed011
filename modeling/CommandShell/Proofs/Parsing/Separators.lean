import CommandShell.Proofs.Parsing.Grammar
import Mathlib.Data.List.Forall2
set_option autoImplicit false

/-!
# Redundant separators

A separator that follows another one, that follows an opening parenthesis or that stands before a
closing one adds an empty item and nothing else.  Outlines that differ in such items only go the
same way: each token is refused in both, with the same error, or leads to outlines that again differ
in empty items only, and in the end both come to the same command or fail alike.
-/

namespace CommandShell

namespace Parser

/-! ## Sketches without some of their empty items -/

mutual

/-- The second sketch is the first without some of the empty items of its sequences.  The only items
of a sequence are not all left out: they count for its depth. -/
inductive Thins : Sketch → Sketch → Prop where
  | empty : Thins .empty .empty
  | simple (program : String) (arguments : List String) :
    Thins (.simple program arguments) (.simple program arguments)
  | sequence {items items'} (enclosed : Bool) :
    ThinsAll items items' → (items' = [] → items = []) →
    Thins (.sequence items enclosed) (.sequence items' enclosed)
  | binary {primary primary' secondary secondary'} (connective : Connective) :
    Thins primary primary' → Thins secondary secondary' →
    Thins (.binary connective primary secondary) (.binary connective primary' secondary')
  | redirection {primary primary'} (direction : Redirect) (path : Option String) :
    Thins primary primary' →
    Thins (.redirection direction primary path) (.redirection direction primary' path)

/-- The second list is the first without some of its empty sketches, and those left are thinned. -/
inductive ThinsAll : List Sketch → List Sketch → Prop where
  | nil : ThinsAll [] []
  | cons {sketch sketch' rest rest'} :
    Thins sketch sketch' → ThinsAll rest rest' → ThinsAll (sketch :: rest) (sketch' :: rest')
  | drop {rest rest'} : ThinsAll rest rest' → ThinsAll (.empty :: rest) rest'

end

mutual

theorem Thins.refl : ∀ sketch : Sketch, Thins sketch sketch
  | .empty => .empty
  | .simple program arguments => .simple program arguments
  | .sequence items enclosed => .sequence enclosed (ThinsAll.refl items) id
  | .binary connective primary secondary =>
    .binary connective (Thins.refl primary) (Thins.refl secondary)
  | .redirection direction primary path => .redirection direction path (Thins.refl primary)

theorem ThinsAll.refl : ∀ sketches : List Sketch, ThinsAll sketches sketches
  | [] => .nil
  | sketch :: rest => .cons (Thins.refl sketch) (ThinsAll.refl rest)

end

theorem ThinsAll.append {items items' rest rest' : List Sketch} (h : ThinsAll items items')
    (hrest : ThinsAll rest rest') : ThinsAll (items ++ rest) (items' ++ rest') := by
  match h with
  | .nil => exact hrest
  | .cons hfirst hitems => exact .cons hfirst (hitems.append hrest)
  | .drop hitems => exact .drop (hitems.append hrest)

/-- One more empty item can be left out. -/
theorem ThinsAll.append_empty (items : List Sketch) : ThinsAll (items ++ [.empty]) items := by
  have h := (ThinsAll.refl items).append (.drop .nil)
  rwa [List.append_nil] at h

namespace Thins

variable {sketch sketch' : Sketch}

theorem isEmpty_eq (h : Thins sketch sketch') : sketch.isEmpty = sketch'.isEmpty := by
  cases h <;> rfl

theorem isPending_eq (h : Thins sketch sketch') : sketch.isPending = sketch'.isPending := by
  cases h with
  | redirection direction path => cases path <;> rfl
  | _ => rfl

end Thins

/-! ## Depth and command -/

mutual

theorem Thins.depth_eq {sketch sketch' : Sketch} (h : Thins sketch sketch') :
    sketch.depth = sketch'.depth := by
  match h with
  | .empty => rfl
  | .simple .. => rfl
  | .binary _ hprimary hsecondary =>
    rw [Sketch.depth_binary, Sketch.depth_binary, hprimary.depth_eq, hsecondary.depth_eq]
  | .redirection _ _ hprimary =>
    rw [Sketch.depth_redirection, Sketch.depth_redirection, hprimary.depth_eq]
  | @Thins.sequence items items' _ hitems hkept =>
    obtain ⟨hle, hle'⟩ := hitems.depths_bounds
    rw [Sketch.depth_sequence, Sketch.depth_sequence]
    cases items' with
    | nil => rw [hkept rfl]
    | cons item rest =>
      -- an item that is left makes the sequence as deep as an empty one does
      have hone : 1 ≤ Sketch.depth.depths (item :: rest) := by
        rw [Sketch.depths_cons]
        omega
      omega

/-- Empty items make a sequence one step deep, and no deeper. -/
theorem ThinsAll.depths_bounds {items items' : List Sketch} (h : ThinsAll items items') :
    Sketch.depth.depths items' ≤ Sketch.depth.depths items ∧
      Sketch.depth.depths items ≤ max 1 (Sketch.depth.depths items') := by
  match h with
  | .nil => simp [Sketch.depth.depths]
  | .cons hfirst hrest =>
    have hdepth := hfirst.depth_eq
    have hbounds := hrest.depths_bounds
    rw [Sketch.depths_cons, Sketch.depths_cons]
    omega
  | .drop hrest =>
    have hbounds := hrest.depths_bounds
    rw [Sketch.depths_cons, show Sketch.empty.depth = 0 from rfl]
    omega

end

/-- What a sequence comes to depends on the commands of its items that have one. -/
theorem gather_congr (enclosed : Bool) {commands commands' : List (Option Command)}
    (h : commands.filterMap id = commands'.filterMap id) :
    gather enclosed commands = gather enclosed commands' := by
  unfold gather
  rw [h]

/-- Two attempts at the commands of a list fail alike, or find the same commands. -/
inductive FindsSame : Except ParseError (List (Option Command)) →
    Except ParseError (List (Option Command)) → Prop where
  | ok {commands commands'} :
    commands.filterMap id = commands'.filterMap id → FindsSame (.ok commands) (.ok commands')
  | error (e : ParseError) : FindsSame (.error e) (.error e)

mutual

theorem Thins.build_eq {sketch sketch' : Sketch} (h : Thins sketch sketch') :
    sketch.build = sketch'.build := by
  match h with
  | .empty => rfl
  | .simple .. => rfl
  | .binary _ hprimary hsecondary =>
    rw [Sketch.build_binary, Sketch.build_binary, hprimary.build_eq, hsecondary.build_eq]
  | .redirection _ _ hprimary =>
    rw [Sketch.build_redirection, Sketch.build_redirection, hprimary.build_eq]
  | .sequence enclosed hitems _ =>
    have hfinds := hitems.findsSame
    rw [Sketch.build_sequence, Sketch.build_sequence]
    generalize Sketch.buildAll _ = commands at hfinds ⊢
    generalize Sketch.buildAll _ = commands' at hfinds ⊢
    cases hfinds with
    | ok hsame => exact gather_congr enclosed hsame
    | error e => rfl

theorem ThinsAll.findsSame {items items' : List Sketch} (h : ThinsAll items items') :
    FindsSame (Sketch.buildAll items) (Sketch.buildAll items') := by
  match h with
  | .nil => exact .ok rfl
  | @ThinsAll.drop rest rest' hrest =>
    have hfinds := hrest.findsSame
    simp only [Sketch.buildAll, Sketch.build]
    generalize Sketch.buildAll rest = commands at hfinds ⊢
    generalize Sketch.buildAll rest' = commands' at hfinds ⊢
    cases hfinds with
    | ok hsame => exact .ok hsame
    | error e => exact .error e
  | @ThinsAll.cons _ sketch' rest rest' hfirst hrest =>
    have hfinds := hrest.findsSame
    rw [Sketch.buildAll_cons, Sketch.buildAll_cons, hfirst.build_eq]
    generalize sketch'.build = first
    generalize Sketch.buildAll rest = commands at hfinds ⊢
    generalize Sketch.buildAll rest' = commands' at hfinds ⊢
    cases first with
    | error e => exact .error e
    | ok command =>
      cases hfinds with
      | error e => exact .error e
      | ok hsame =>
        refine .ok ?_
        rw [List.filterMap_cons, List.filterMap_cons, hsame]

end

/-! ## Outlines -/

/-- What stands around a place, with some empty items left out. -/
inductive Frame.Thins : Frame → Frame → Prop where
  | operand {primary primary'} (connective : Connective) :
    Parser.Thins primary primary' →
    Frame.Thins (.operand connective primary) (.operand connective primary')
  | item {before before'} (enclosed : Bool) :
    ThinsAll before before' → Frame.Thins (.item before enclosed) (.item before' enclosed)

/-- The second outline is the first without some empty items. -/
structure Outline.Thins (o o' : Outline) : Prop where
  focus : Parser.Thins o.focus o'.focus
  frames : List.Forall₂ Frame.Thins o.frames o'.frames

/-- Both fail with the same error, or lead to outlines that differ in empty items only. -/
inductive Outline.ThinsTo : Except ParseError Outline → Except ParseError Outline → Prop where
  | ok {o o'} : o.Thins o' → ThinsTo (.ok o) (.ok o')
  | error (e : ParseError) : ThinsTo (.error e) (.error e)

theorem Frame.Thins.refl : ∀ frame : Frame, frame.Thins frame
  | .operand connective primary => .operand connective (.refl primary)
  | .item before enclosed => .item enclosed (.refl before)

theorem Frame.Thins.frames_refl (frames : List Frame) : List.Forall₂ Frame.Thins frames frames :=
  List.forall₂_same.2 fun frame _ => .refl frame

theorem Frame.Thins.isScope_eq {frame frame' : Frame} (h : frame.Thins frame') :
    frame.isScope = frame'.isScope := by
  cases h <;> rfl

/-- The sketch one step up keeps the item at the place. -/
theorem Frame.Thins.plug {frame frame' : Frame} {sketch sketch' : Sketch}
    (h : frame.Thins frame') (hsketch : Parser.Thins sketch sketch') :
    Parser.Thins (frame.plug sketch) (frame'.plug sketch') := by
  cases h with
  | operand connective hprimary => exact .binary connective hprimary hsketch
  | item enclosed hbefore =>
    refine .sequence enclosed (hbefore.append (.cons hsketch .nil)) fun hnone => ?_
    simp at hnone

theorem climb_thins {frames frames' : List Frame} (h : List.Forall₂ Frame.Thins frames frames')
    {sketch sketch' : Sketch} (hsketch : Thins sketch sketch') :
    Thins (climb sketch frames).1 (climb sketch' frames').1 ∧
      List.Forall₂ Frame.Thins (climb sketch frames).2 (climb sketch' frames').2 := by
  induction h generalizing sketch sketch' with
  | nil => exact ⟨hsketch, .nil⟩
  | cons hframe hframes ih =>
    cases hframe with
    | operand connective hprimary => exact ih (.binary connective hprimary hsketch)
    | item enclosed hbefore => exact ⟨hsketch, .cons (.item enclosed hbefore) hframes⟩

namespace Outline

variable {o o' : Outline}

theorem Thins.refl (o : Outline) : o.Thins o := ⟨.refl _, Frame.Thins.frames_refl _⟩

theorem Thins.whole (h : o.Thins o') : Parser.Thins o.whole o'.whole := by
  obtain ⟨focus, frames⟩ := o
  obtain ⟨focus', frames'⟩ := o'
  obtain ⟨hfocus, hframes⟩ := h
  unfold Outline.whole
  dsimp only at hfocus hframes ⊢
  induction hframes generalizing focus focus' with
  | nil => exact hfocus
  | cons hframe _ ih => exact ih _ _ (hframe.plug hfocus)

theorem Thins.any_isScope (h : o.Thins o') :
    o.frames.any Frame.isScope = o'.frames.any Frame.isScope := by
  obtain ⟨-, hframes⟩ := h
  generalize o.frames = frames at hframes ⊢
  generalize o'.frames = frames' at hframes ⊢
  induction hframes with
  | nil => rfl
  | cons hframe _ ih => rw [List.any_cons, List.any_cons, hframe.isScope_eq, ih]

theorem Thins.expectNoPendingPath (h : o.Thins o') :
    o.expectNoPendingPath = o'.expectNoPendingPath := by
  unfold Outline.expectNoPendingPath
  rw [h.focus.isPending_eq]

/-- What comes after the check for a pending path may rely on there being none. -/
theorem ThinsTo.checked {next next' : Outline → Except ParseError Outline} (h : o.Thins o')
    (hnext : ThinsTo (next o) (next' o')) :
    ThinsTo (o.expectNoPendingPath >>= fun _ => next o)
      (o'.expectNoPendingPath >>= fun _ => next' o') := by
  rw [h.expectNoPendingPath]
  cases o'.expectNoPendingPath with
  | error e => exact .error e
  | ok => exact hnext

/-- Actions that keep the difference to empty items keep it one after the other. -/
theorem ThinsTo.bind {found found' : Except ParseError Outline}
    {next next' : Outline → Except ParseError Outline} (h : ThinsTo found found')
    (hnext : ∀ o o', o.Thins o' → ThinsTo (next o) (next' o')) :
    ThinsTo (found >>= next) (found' >>= next') := by
  cases h with
  | error e => exact .error e
  | ok hthins => exact hnext _ _ hthins

theorem ThinsTo.bind_eq {α : Type} {found found' : Except ParseError Outline}
    {next : Outline → Except ParseError α} (h : ThinsTo found found')
    (hnext : ∀ o o', o.Thins o' → next o = next o') : found >>= next = found' >>= next := by
  cases h with
  | error e => rfl
  | ok hthins => exact hnext _ _ hthins

namespace Thins

theorem word (h : o.Thins o') (text : String) : ThinsTo (o.word text) (o'.word text) := by
  obtain ⟨focus, frames⟩ := o
  obtain ⟨focus', frames'⟩ := o'
  obtain ⟨hfocus, hframes⟩ := h
  dsimp only at hfocus hframes
  cases hfocus with
  | empty => exact .ok ⟨.simple text [], hframes⟩
  | simple program arguments => exact .ok ⟨.simple program (arguments ++ [text]), hframes⟩
  | sequence => exact .error _
  | binary => exact .error _
  | redirection direction path hprimary =>
    cases path with
    | none => exact .ok ⟨.redirection direction (some text) hprimary, hframes⟩
    | some path => exact .error _

theorem separator (h : o.Thins o') : ThinsTo o.separator o'.separator := by
  unfold Outline.separator
  apply ThinsTo.checked h
  obtain ⟨hsketch, hframes⟩ := climb_thins h.frames h.focus
  generalize climb o.focus o.frames = climbed at hsketch hframes ⊢
  generalize climb o'.focus o'.frames = climbed' at hsketch hframes ⊢
  obtain ⟨sketch, frames⟩ := climbed
  obtain ⟨sketch', frames'⟩ := climbed'
  have hfirst : ThinsAll (firstItem sketch) (firstItem sketch') := by
    unfold firstItem
    rw [hsketch.isEmpty_eq]
    split
    · exact .nil
    · exact .cons hsketch .nil
  cases hframes with
  | nil => exact .ok ⟨.empty, .cons (.item false hfirst) .nil⟩
  | cons hframe hframes =>
    cases hframe with
    | operand => exact .ok ⟨.empty, .cons (.item false hfirst) .nil⟩
    | item enclosed hbefore =>
      exact .ok ⟨.empty, .cons (.item enclosed (hbefore.append (.cons hsketch .nil))) hframes⟩

theorem connective (h : o.Thins o') (connective : Connective) :
    ThinsTo (o.connective connective) (o'.connective connective) := by
  unfold Outline.connective
  apply ThinsTo.checked h
  rw [h.focus.isEmpty_eq]
  split
  · exact .error _
  · exact .ok ⟨.empty, .cons (.operand connective h.focus) h.frames⟩

theorem redirection (h : o.Thins o') (direction : Redirect) :
    ThinsTo (o.redirection direction) (o'.redirection direction) := by
  unfold Outline.redirection
  apply ThinsTo.checked h
  rw [h.focus.isEmpty_eq]
  split
  · exact .error _
  · exact .ok ⟨.redirection direction none h.focus, h.frames⟩

theorem openScope (h : o.Thins o') : ThinsTo o.openScope o'.openScope := by
  unfold Outline.openScope
  apply ThinsTo.checked h
  rw [h.focus.isEmpty_eq]
  split
  · exact .ok ⟨.empty, .cons (.item true .nil) h.frames⟩
  · exact .error _

theorem closeScope (h : o.Thins o') : ThinsTo o.closeScope o'.closeScope := by
  unfold Outline.closeScope
  apply ThinsTo.checked h
  obtain ⟨hsketch, hframes⟩ := climb_thins h.frames h.focus
  generalize climb o.focus o.frames = climbed at hsketch hframes ⊢
  generalize climb o'.focus o'.frames = climbed' at hsketch hframes ⊢
  obtain ⟨sketch, frames⟩ := climbed
  obtain ⟨sketch', frames'⟩ := climbed'
  cases hframes with
  | nil => exact .error _
  | cons hframe hframes =>
    cases hframe with
    | operand => exact .error _
    | item enclosed hbefore =>
      cases enclosed with
      | false => exact .error _
      | true => exact .ok ⟨(Frame.Thins.item true hbefore).plug hsketch, hframes⟩

theorem step (h : o.Thins o') (token : Token) : ThinsTo (o.step token) (o'.step token) := by
  cases token with
  | word text => exact h.word text
  | operator op =>
    cases op with
    | sequence => exact h.separator
    | conjunction => exact h.connective .conjunction
    | disjunction => exact h.connective .disjunction
    | pipe => exact h.connective .pipe
    | inputRedirect => exact h.redirection .input
    | outputRedirect => exact h.redirection .output
    | appendRedirect => exact h.redirection .append
    | openScope => exact h.openScope
    | closeScope => exact h.closeScope

theorem steps (h : o.Thins o') (tokens : List Token) :
    ThinsTo (o.steps tokens) (o'.steps tokens) := by
  unfold Outline.steps
  induction tokens generalizing o o' with
  | nil => exact .ok h
  | cons token tokens ih =>
    rw [List.foldlM_cons, List.foldlM_cons]
    exact (h.step token).bind fun _ _ hnext => ih hnext

theorem finish (h : o.Thins o') : o.finish = o'.finish := by
  unfold Outline.finish
  rw [h.expectNoPendingPath, h.any_isScope, h.whole.depth_eq, h.whole.build_eq]

end Thins

/-! ## Separators that separate nothing -/

theorem steps_append (o : Outline) (tokens tokens' : List Token) :
    o.steps (tokens ++ tokens') = o.steps tokens >>= fun o => o.steps tokens' :=
  List.foldlM_append ..

/-- A separator leads to an empty place, the last item of its scope or of the line. -/
theorem separator_eq_ok {o : Outline} (h : o.separator = .ok o') :
    ∃ before enclosed frames, o' = ⟨.empty, .item before enclosed :: frames⟩ := by
  obtain ⟨_, -, hnext⟩ := exists_of_bind_eq_ok h
  split at hnext
  all_goals
    obtain rfl := Except.ok.inj hnext
    exact ⟨_, _, _, rfl⟩

/-- A second separator adds an empty item. -/
theorem steps_separator_separator (o : Outline) :
    ThinsTo (o.steps [.operator .sequence, .operator .sequence])
      (o.steps [.operator .sequence]) := by
  change ThinsTo (o.separator >>= fun o => o.separator >>= pure) (o.separator >>= pure)
  cases hfirst : o.separator with
  | error e => exact .error e
  | ok next =>
    obtain ⟨before, enclosed, frames, rfl⟩ := separator_eq_ok hfirst
    exact .ok ⟨.empty, .cons (.item enclosed (.append_empty before)) (Frame.Thins.frames_refl _)⟩

/-- So does a separator right after an opening parenthesis. -/
theorem steps_openScope_separator (o : Outline) :
    ThinsTo (o.steps [.operator .openScope, .operator .sequence])
      (o.steps [.operator .openScope]) := by
  change ThinsTo (o.openScope >>= fun o => o.separator >>= pure) (o.openScope >>= pure)
  unfold Outline.openScope
  cases o.expectNoPendingPath with
  | error e => exact .error e
  | ok =>
    cases hempty : o.focus.isEmpty with
    | false => exact .error _
    | true =>
      exact .ok ⟨.empty, .cons (.item true (.append_empty [])) (Frame.Thins.frames_refl _)⟩

/-- And a separator right before a closing parenthesis.  Where that one closes nothing, it is
refused after the separator as well. -/
theorem steps_separator_closeScope (o : Outline) :
    ThinsTo (o.steps [.operator .sequence, .operator .closeScope])
      (o.steps [.operator .closeScope]) := by
  change ThinsTo (o.separator >>= fun o => o.closeScope >>= pure) (o.closeScope >>= pure)
  unfold Outline.separator Outline.closeScope
  cases o.expectNoPendingPath with
  | error e => exact .error e
  | ok =>
    generalize hclimbed : climb o.focus o.frames = climbed
    obtain ⟨sketch, frames⟩ := climbed
    have hne := climb_ne_operand o.focus o.frames
    rw [hclimbed] at hne
    cases frames with
    | nil => exact .error _
    | cons frame frames =>
      cases frame with
      | operand connective primary => exact absurd rfl (hne connective primary frames)
      | item before enclosed =>
        cases enclosed with
        | false => exact .error _
        | true =>
          have hitems : before ++ [sketch] = [] → before ++ [sketch] ++ [Sketch.empty] = [] := by
            simp
          exact .ok ⟨.sequence true (.append_empty _) hitems, Frame.Thins.frames_refl _⟩

end Outline

/-- Tokens that everywhere differ in empty items only may stand for one another in any line. -/
theorem parse_congr {tokens tokens' : List Token}
    (h : ∀ o : Outline, Outline.ThinsTo (o.steps tokens) (o.steps tokens'))
    (before after : List Token) :
    parse (before ++ tokens ++ after) = parse (before ++ tokens' ++ after) := by
  simp only [parse_eq, Outline.steps_append]
  cases Outline.initial.steps before with
  | error e => rfl
  | ok o =>
    have hafter := (h o).bind fun _ _ hmiddle => hmiddle.steps after
    exact hafter.bind_eq fun _ _ hlast => hlast.finish

/-- Separators that separate nothing make no difference to what the parser gives, be it a command,
nothing or an error: a second separator after another, one right after an opening parenthesis, and
one right before a closing parenthesis, whatever stands around them. -/
theorem parse_redundant_separator (before after : List Token) :
    parse (before ++ [.operator .sequence, .operator .sequence] ++ after)
      = parse (before ++ [.operator .sequence] ++ after) ∧
    parse (before ++ [.operator .openScope, .operator .sequence] ++ after)
      = parse (before ++ [.operator .openScope] ++ after) ∧
    parse (before ++ [.operator .sequence, .operator .closeScope] ++ after)
      = parse (before ++ [.operator .closeScope] ++ after) :=
  ⟨parse_congr Outline.steps_separator_separator before after,
    parse_congr Outline.steps_openScope_separator before after,
    parse_congr Outline.steps_separator_closeScope before after⟩

end Parser

end CommandShell
