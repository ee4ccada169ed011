import CommandShell.Proofs.Parsing.Arena
set_option autoImplicit false

/-!
# The grammar of command lines

The parser accepts just the lines of the grammar below whose trees are not too high, and gives the
trees that the grammar gives.  That it accepts no others is read off the outline: at any time each
part of it stands for the tokens it was made from.  That it accepts all of them is an induction over
the grammar, where each phrase takes the outline from an empty place to one that holds its tree.
-/

namespace CommandShell

/-- The operator that stands for a connective. -/
def Connective.operator : Connective → Operator
  | conjunction => .conjunction
  | disjunction => .disjunction
  | pipe => .pipe

/-- The operator that stands for a redirection. -/
def Redirect.operator : Redirect → Operator
  | input => .inputRedirect
  | output => .outputRedirect
  | append => .appendRedirect

namespace Grammar

mutual

/-- Words, or items between parentheses that are not all empty. -/
inductive Base : List Token → Command → Prop where
  | words (program : String) (arguments : List String) :
    Base ((program :: arguments).map .word) (.ofWords program arguments)
  | scope {tokens commands} :
    Items tokens commands → commands.filterMap id ≠ [] →
    Base (.operator .openScope :: (tokens ++ [.operator .closeScope]))
      (.sequential (commands.filterMap id))

/-- A base with redirections after it. -/
inductive Operand : List Token → Command → Prop where
  | base {tokens command} : Base tokens command → Operand tokens command
  | redirected {tokens command} (redirect : Redirect) (path : String) :
    Operand tokens command →
    Operand (tokens ++ [.operator redirect.operator, .word path])
      (.redirection redirect command path)

/-- Operands with connectives between them, nested to the right. -/
inductive Chain : List Token → Command → Prop where
  | operand {tokens command} : Operand tokens command → Chain tokens command
  | joined {tokens tokens' primary secondary} (connective : Connective) :
    Operand tokens primary → Chain tokens' secondary →
    Chain (tokens ++ .operator connective.operator :: tokens')
      (.binary connective primary secondary)

/-- A chain or nothing. -/
inductive Item : List Token → Option Command → Prop where
  | nothing : Item [] none
  | chain {tokens command} : Chain tokens command → Item tokens (some command)

/-- One or more items with separators between them. -/
inductive Items : List Token → List (Option Command) → Prop where
  | last {tokens command} : Item tokens command → Items tokens [command]
  | cons {tokens tokens' command commands} :
    Item tokens command → Items tokens' commands →
    Items (tokens ++ .operator .sequence :: tokens') (command :: commands)

end

/-- The command of a line with separators: a sequence of those of its items that are not empty. -/
def sequenceOf (commands : List (Option Command)) : Option Command :=
  match commands.filterMap id with
  | [] => none
  | commands => some (.sequential commands)

/-- An item, or more of them with separators between them. -/
inductive Line : List Token → Option Command → Prop where
  | item {tokens command} : Item tokens command → Line tokens command
  | sequence {tokens commands} :
    Items tokens commands → 2 ≤ commands.length → Line tokens (sequenceOf commands)

end Grammar

namespace Parser

open Grammar

/-! ## What sketches stand for -/

/-- The height of a command or of nothing. -/
def heightOf : Option Command → Nat
  | none => 0
  | some command => command.height

/-- A sketch comes to a command or nothing, and is as deep as that is high. -/
def Sketch.Means (sketch : Sketch) (command : Option Command) : Prop :=
  sketch.build = .ok command ∧ sketch.depth = heightOf command

/-- Sketches come to commands or nothing, one by one. -/
def MeanAll (sketches : List Sketch) (commands : List (Option Command)) : Prop :=
  Sketch.buildAll sketches = .ok commands ∧ sketches.map Sketch.depth = commands.map heightOf

theorem MeanAll.nil : MeanAll [] [] := ⟨rfl, rfl⟩

theorem MeanAll.cons {sketch : Sketch} {command : Option Command} {sketches : List Sketch}
    {commands : List (Option Command)} (h : sketch.Means command) (h' : MeanAll sketches commands) :
    MeanAll (sketch :: sketches) (command :: commands) := by
  refine ⟨?_, by rw [List.map_cons, List.map_cons, h.2, h'.2]⟩
  rw [Sketch.buildAll_cons, h.1, h'.1]
  rfl

theorem height_ofWords (program : String) (arguments : List String) :
    (Command.ofWords program arguments).height = 0 := by
  unfold Command.ofWords
  split
  · rfl
  · split
    · rfl
    · split <;> rfl

/-- The depth of a sequence is that of its items that are not empty, or one step. -/
theorem depths_bounds {sketches : List Sketch} {commands : List (Option Command)}
    (h : sketches.map Sketch.depth = commands.map heightOf) :
    Command.height.heights (commands.filterMap id) ≤ Sketch.depth.depths sketches ∧
      Sketch.depth.depths sketches ≤ max 1 (Command.height.heights (commands.filterMap id)) := by
  induction sketches generalizing commands with
  | nil =>
    obtain rfl : commands = [] := List.map_eq_nil_iff.1 h.symm
    simp [Sketch.depth.depths, Command.height.heights]
  | cons sketch sketches ih =>
    obtain ⟨command, commands, rfl, hfirst, hrest⟩ := List.map_eq_cons_iff.1 h.symm
    obtain ⟨hle, hle'⟩ := ih hrest.symm
    rw [Sketch.depths_cons, ← hfirst]
    cases command with
    | none =>
      rw [show (none :: commands).filterMap id = commands.filterMap id from rfl, heightOf]
      omega
    | some command =>
      rw [show (some command :: commands).filterMap id = command :: commands.filterMap id from rfl,
        Command.height.heights, heightOf]
      omega

/-- Empty items count for the depth of a sequence only if there are no others. -/
theorem depths_eq {sketches : List Sketch} {commands : List (Option Command)}
    (h : sketches.map Sketch.depth = commands.map heightOf) (hsome : commands.filterMap id ≠ []) :
    Sketch.depth.depths sketches = Command.height.heights (commands.filterMap id) := by
  obtain ⟨hle, hle'⟩ := depths_bounds h
  have hone : 1 ≤ Command.height.heights (commands.filterMap id) := by
    obtain ⟨command, commands, hcommands⟩ := List.exists_cons_of_ne_nil hsome
    rw [hcommands, Command.height.heights]
    omega
  omega

theorem means_simple (program : String) (arguments : List String) :
    (Sketch.simple program arguments).Means (some (.ofWords program arguments)) :=
  ⟨rfl, (height_ofWords program arguments).symm⟩

theorem means_redirection {primary : Sketch} {command : Command} (redirect : Redirect)
    (path : String) (h : primary.Means (some command)) :
    (Sketch.redirection redirect primary (some path)).Means
      (some (.redirection redirect command path)) := by
  refine ⟨?_, by rw [Sketch.depth_redirection, h.2]; rfl⟩
  rw [Sketch.build_redirection, h.1]
  rfl

theorem means_binary {primary secondary : Sketch} {command command' : Command}
    (connective : Connective) (h : primary.Means (some command))
    (h' : secondary.Means (some command')) :
    (Sketch.binary connective primary secondary).Means
      (some (.binary connective command command')) := by
  refine ⟨?_, by rw [Sketch.depth_binary, h.2, h'.2]; rfl⟩
  rw [Sketch.build_binary, h.1, h'.1]
  rfl

theorem means_scope {items : List Sketch} {commands : List (Option Command)}
    (h : MeanAll items commands) (hsome : commands.filterMap id ≠ []) :
    (Sketch.sequence items true).Means (some (.sequential (commands.filterMap id))) := by
  refine ⟨?_, depths_eq h.2 hsome⟩
  rw [Sketch.build_sequence, h.1]
  exact gather_some true hsome

/-! ## Every line is accepted -/

/-- From one outline to another the tokens of the list are taken. -/
def Reads (o : Outline) (tokens : List Token) (o' : Outline) : Prop := o.steps tokens = .ok o'

theorem Reads.append {o o₁ o' : Outline} {tokens tokens' : List Token} (h : Reads o tokens o₁)
    (h' : Reads o₁ tokens' o') : Reads o (tokens ++ tokens') o' := by
  unfold Reads Outline.steps at *
  rw [List.foldlM_append, h]
  exact h'

theorem Reads.cons {o o₁ o' : Outline} {token : Token} {tokens : List Token}
    (h : o.step token = .ok o₁) (h' : Reads o₁ tokens o') : Reads o (token :: tokens) o' := by
  unfold Reads Outline.steps at *
  rw [List.foldlM_cons, h]
  exact h'

theorem Outline.step_connective (o : Outline) (connective : Connective) :
    o.step (.operator connective.operator) = o.connective connective := by
  cases connective <;> rfl

theorem Outline.step_redirection (o : Outline) (redirect : Redirect) :
    o.step (.operator redirect.operator) = o.redirection redirect := by
  cases redirect <;> rfl

/-- There is a command at the place, and it does not wait for a path. -/
structure Sketch.IsSettled (sketch : Sketch) : Prop where
  isEmpty_eq : sketch.isEmpty = false
  isPending_eq : sketch.isPending = false

/-- After a chain the outline has a sketch that stands for it in the place where it began. -/
structure Ends (o : Outline) (sketch : Sketch) (frames : List Frame) : Prop where
  isPending_eq : o.focus.isPending = false
  climb_eq : climb o.focus o.frames = climb sketch frames

theorem reads_arguments (program : String) (done : List String) (frames : List Frame)
    (arguments : List String) :
    Reads ⟨.simple program done, frames⟩ (arguments.map .word)
      ⟨.simple program (done ++ arguments), frames⟩ := by
  induction arguments generalizing done with
  | nil =>
    rw [List.append_nil]
    rfl
  | cons argument arguments ih =>
    have hrest := ih (done ++ [argument])
    rw [List.append_assoc] at hrest
    exact .cons rfl hrest

theorem Ends.refl (sketch : Sketch) (frames : List Frame) (h : sketch.isPending = false) :
    Ends ⟨sketch, frames⟩ sketch frames := ⟨h, rfl⟩

/-- At an item, what has ended is the last item of its scope. -/
theorem Ends.closeScope {o : Outline} {sketch : Sketch} {before : List Sketch}
    {frames : List Frame} (h : Ends o sketch (.item before true :: frames)) :
    o.step (.operator .closeScope) = .ok ⟨.sequence (before ++ [sketch]) true, frames⟩ := by
  show o.closeScope = _
  rw [Outline.closeScope, Outline.expectNoPendingPath, h.isPending_eq, h.climb_eq]
  rfl

theorem Ends.separator {o : Outline} {sketch : Sketch} {before : List Sketch} {enclosed : Bool}
    {frames : List Frame} (h : Ends o sketch (.item before enclosed :: frames)) :
    o.step (.operator .sequence)
      = .ok ⟨.empty, .item (before ++ [sketch]) enclosed :: frames⟩ := by
  show o.separator = _
  rw [Outline.separator, Outline.expectNoPendingPath, h.isPending_eq, h.climb_eq]
  rfl

/-- At the root, it is the first item of the line. -/
theorem Ends.firstSeparator {o : Outline} {sketch : Sketch} (h : Ends o sketch []) :
    o.step (.operator .sequence)
      = .ok ⟨.empty, [.item (Outline.firstItem sketch) false]⟩ := by
  show o.separator = _
  rw [Outline.separator, Outline.expectNoPendingPath, h.isPending_eq, h.climb_eq]
  rfl

mutual

/-- A base takes an empty place to one that holds its sketch. -/
theorem reads_base {tokens : List Token} {command : Command} (h : Base tokens command)
    (frames : List Frame) :
    ∃ sketch, Reads ⟨.empty, frames⟩ tokens ⟨sketch, frames⟩ ∧ sketch.IsSettled ∧
      sketch.Means (some command) := by
  match h with
  | .words program arguments =>
    exact ⟨_, .cons rfl (reads_arguments program [] frames arguments), ⟨rfl, rfl⟩,
      means_simple program arguments⟩
  | .scope hitems hsome =>
    obtain ⟨o, init, last, hreads, hends, hmean⟩ := reads_items hitems [] true frames
    refine ⟨.sequence (init ++ [last]) true, ?_, ⟨rfl, rfl⟩, means_scope hmean hsome⟩
    exact .cons rfl (hreads.append (.cons hends.closeScope rfl))

/-- And so does an operand. -/
theorem reads_operand {tokens : List Token} {command : Command} (h : Operand tokens command)
    (frames : List Frame) :
    ∃ sketch, Reads ⟨.empty, frames⟩ tokens ⟨sketch, frames⟩ ∧ sketch.IsSettled ∧
      sketch.Means (some command) := by
  match h with
  | .base hbase => exact reads_base hbase frames
  | .redirected redirect path hoperand =>
    obtain ⟨sketch, hreads, hsettled, hmeans⟩ := reads_operand hoperand frames
    have hstep : Outline.step ⟨sketch, frames⟩ (.operator redirect.operator)
        = .ok ⟨.redirection redirect sketch none, frames⟩ := by
      rw [Outline.step_redirection, Outline.redirection, Outline.expectNoPendingPath,
        hsettled.isPending_eq, hsettled.isEmpty_eq]
      rfl
    exact ⟨.redirection redirect sketch (some path), hreads.append (.cons hstep (.cons rfl rfl)),
      ⟨rfl, rfl⟩, means_redirection redirect path hmeans⟩

/-- A chain ends with its sketch in the place where it began. -/
theorem reads_chain {tokens : List Token} {command : Command} (h : Chain tokens command)
    (frames : List Frame) :
    ∃ o sketch, Reads ⟨.empty, frames⟩ tokens o ∧ Ends o sketch frames ∧
      sketch.Means (some command) := by
  match h with
  | .operand hoperand =>
    obtain ⟨sketch, hreads, hsettled, hmeans⟩ := reads_operand hoperand frames
    exact ⟨_, sketch, hreads, .refl _ _ hsettled.isPending_eq, hmeans⟩
  | .joined connective hprimary hsecondary =>
    obtain ⟨primary, hreads, hsettled, hmeans⟩ := reads_operand hprimary frames
    obtain ⟨o, secondary, hreads', hends, hmeans'⟩ :=
      reads_chain hsecondary (.operand connective primary :: frames)
    refine ⟨o, _, hreads.append (.cons ?_ hreads'), ⟨hends.isPending_eq, hends.climb_eq⟩,
      means_binary connective hmeans hmeans'⟩
    rw [Outline.step_connective, Outline.connective, Outline.expectNoPendingPath,
      hsettled.isPending_eq, hsettled.isEmpty_eq]
    rfl

theorem reads_item {tokens : List Token} {command : Option Command} (h : Item tokens command)
    (frames : List Frame) :
    ∃ o sketch, Reads ⟨.empty, frames⟩ tokens o ∧ Ends o sketch frames ∧
      sketch.Means command := by
  match h with
  | .nothing => exact ⟨_, .empty, rfl, .refl _ _ rfl, rfl, rfl⟩
  | .chain hchain => exact reads_chain hchain frames

/-- Items end with their sketches in the scope. -/
theorem reads_items {tokens : List Token} {commands : List (Option Command)}
    (h : Items tokens commands) (before : List Sketch) (enclosed : Bool) (frames : List Frame) :
    ∃ o init last, Reads ⟨.empty, .item before enclosed :: frames⟩ tokens o ∧
      Ends o last (.item (before ++ init) enclosed :: frames) ∧
      MeanAll (init ++ [last]) commands := by
  match h with
  | .last hitem =>
    obtain ⟨o, last, hreads, hends, hmeans⟩ := reads_item hitem (.item before enclosed :: frames)
    rw [← List.append_nil before] at hends
    exact ⟨o, [], last, hreads, hends, .cons hmeans .nil⟩
  | .cons hitem hitems =>
    obtain ⟨o, first, hreads, hends, hmeans⟩ := reads_item hitem (.item before enclosed :: frames)
    obtain ⟨o', init, last, hreads', hends', hmean⟩ :=
      reads_items hitems (before ++ [first]) enclosed frames
    rw [List.append_assoc] at hends'
    exact ⟨o', first :: init, last, hreads.append (.cons hends.separator hreads'), hends',
      .cons hmeans hmean⟩

end

/-- At the end of a line: nothing is open, and the whole comes to a command or nothing.  If there
is nothing, the whole may still be a sequence of empty items. -/
structure Completes (o : Outline) (command : Option Command) : Prop where
  isPending_eq : o.focus.isPending = false
  any_isScope_eq : o.frames.any Frame.isScope = false
  build_eq : o.whole.build = .ok command
  depth_le : o.whole.depth ≤ max 1 (heightOf command)
  depth_eq : ∀ c, command = some c → o.whole.depth = c.height

theorem gather_false (commands : List (Option Command)) :
    gather false commands = .ok (sequenceOf commands) := by
  unfold gather sequenceOf
  cases commands.filterMap id <;> rfl

/-- What the items of a line with separators come to. -/
theorem MeanAll.sequence {items : List Sketch} {commands : List (Option Command)}
    (h : MeanAll items commands) :
    (Sketch.sequence items false).build = .ok (sequenceOf commands) ∧
      (Sketch.sequence items false).depth ≤ max 1 (heightOf (sequenceOf commands)) ∧
      ∀ c, sequenceOf commands = some c → (Sketch.sequence items false).depth = c.height := by
  obtain ⟨hle, hle'⟩ := depths_bounds h.2
  have hheight : heightOf (sequenceOf commands)
      = Command.height.heights (commands.filterMap id) := by
    unfold sequenceOf
    cases commands.filterMap id <;> rfl
  refine ⟨?_, ?_, ?_⟩
  · rw [Sketch.build_sequence, h.1]
    exact gather_false commands
  · rw [Sketch.depth_sequence, hheight]
    exact hle'
  · intro c hc
    have hsome : commands.filterMap id ≠ [] := by
      intro hnone
      rw [sequenceOf, hnone] at hc
      cases hc
    rw [Sketch.depth_sequence, depths_eq h.2 hsome, ← hheight, hc]
    rfl

theorem MeanAll.completes {o : Outline} {items : List Sketch} {commands : List (Option Command)}
    (h : MeanAll items commands) (hpending : o.focus.isPending = false)
    (hopen : o.frames.any Frame.isScope = false) (hwhole : o.whole = .sequence items false) :
    Completes o (sequenceOf commands) := by
  obtain ⟨hbuild, hle, heq⟩ := h.sequence
  rw [← hwhole] at hbuild hle heq
  exact ⟨hpending, hopen, hbuild, hle, heq⟩

theorem Ends.completes {o : Outline} {sketch : Sketch} {command : Option Command}
    (h : Ends o sketch []) (hmeans : sketch.Means command) : Completes o command := by
  have hwhole : o.whole = sketch := by
    rw [← Outline.whole_climb o.focus o.frames, h.climb_eq]
    rfl
  refine ⟨h.isPending_eq, ?_, by rw [hwhole, hmeans.1], ?_, ?_⟩
  · rw [← Outline.any_isScope_climb o.focus o.frames, h.climb_eq]
    rfl
  · rw [hwhole, hmeans.2]
    exact Nat.le_max_right _ _
  · rintro c rfl
    rw [hwhole, hmeans.2]
    rfl

/-- A line takes the empty outline to one that comes to its command. -/
theorem reads_line {tokens : List Token} {command : Option Command} (h : Line tokens command) :
    ∃ o, Reads .initial tokens o ∧ Completes o command := by
  cases h with
  | item hitem =>
    obtain ⟨o, sketch, hreads, hends, hmeans⟩ := reads_item hitem []
    exact ⟨o, hreads, hends.completes hmeans⟩
  | sequence hitems hlength =>
    cases hitems with
    | last => simp at hlength
    | @cons tokens tokens' command commands hitem hitems =>
      obtain ⟨o, first, hreads, hends, hmeans⟩ := reads_item hitem []
      obtain ⟨o', init, last, hreads', hends', hmean⟩ :=
        reads_items hitems (Outline.firstItem first) false []
      refine ⟨o', hreads.append (.cons hends.firstSeparator hreads'), ?_⟩
      have hwhole : o'.whole
          = .sequence (Outline.firstItem first ++ (init ++ [last])) false := by
        rw [← Outline.whole_climb o'.focus o'.frames, hends'.climb_eq, ← List.append_assoc]
        rfl
      have hopen : o'.frames.any Frame.isScope = false := by
        rw [← Outline.any_isScope_climb o'.focus o'.frames, hends'.climb_eq]
        rfl
      unfold Outline.firstItem at hwhole
      cases hempty : first.isEmpty with
      | false =>
        rw [hempty] at hwhole
        exact (MeanAll.cons hmeans hmean).completes hends'.isPending_eq hopen hwhole
      | true =>
        obtain rfl := Sketch.isEmpty_iff.1 hempty
        obtain rfl : none = command := Except.ok.inj hmeans.1
        exact hmean.completes hends'.isPending_eq hopen hwhole

/-! ## Nothing else is accepted -/

theorem exists_of_bind_eq_ok {ε α β : Type} {x : Except ε α} {next : α → Except ε β} {b : β}
    (h : x >>= next = .ok b) : ∃ a, x = .ok a ∧ next a = .ok b := by
  cases x with
  | error e => cases h
  | ok a => exact ⟨a, rfl, h⟩

/-- The sketch is of an operand written with the given tokens. -/
structure OperandOf (tokens : List Token) (sketch : Sketch) : Prop extends
    sketch.IsSettled where
  build_eq : ∀ command, sketch.build = .ok command →
    ∃ c, command = some c ∧ Operand tokens c ∧ sketch.depth = c.height

/-- The sketch is of an item written with the given tokens, if it comes to anything. -/
def ItemOf (tokens : List Token) (sketch : Sketch) : Prop :=
  ∀ command, sketch.build = .ok command → Item tokens command ∧ sketch.depth = heightOf command

/-- The sketches are of items written with the given tokens, each with a separator after it. -/
inductive ItemsOf : List Token → List Sketch → Prop where
  | nil : ItemsOf [] []
  | cons {tokens tokens' sketch sketches} :
    ItemOf tokens sketch → ItemsOf tokens' sketches →
    ItemsOf (tokens ++ .operator .sequence :: tokens') (sketch :: sketches)

/-- The frames are what the given tokens leave around a place.  A line that begins with a separator
has no sketch for the item before it. -/
inductive FramesOf : List Token → List Frame → Prop where
  | root : FramesOf [] []
  | operand {tokens tokens' frames primary} (connective : Connective) :
    FramesOf tokens frames → OperandOf tokens' primary →
    FramesOf (tokens ++ tokens' ++ [.operator connective.operator])
      (.operand connective primary :: frames)
  | scope {tokens tokens' frames before} :
    FramesOf tokens frames → ItemsOf tokens' before →
    FramesOf (tokens ++ .operator .openScope :: tokens') (.item before true :: frames)
  | line {tokens before} :
    ItemsOf tokens before → before ≠ [] → FramesOf tokens [.item before false]
  | lineFromSeparator {tokens before} :
    ItemsOf tokens before → FramesOf (.operator .sequence :: tokens) [.item before false]

/-- The outline is what the given tokens have built. -/
inductive OutlineOf : List Token → Outline → Prop where
  | empty {tokens frames} : FramesOf tokens frames → OutlineOf tokens ⟨.empty, frames⟩
  | words {tokens frames} (program : String) (arguments : List String) :
    FramesOf tokens frames →
    OutlineOf (tokens ++ (program :: arguments).map .word) ⟨.simple program arguments, frames⟩
  | operand {tokens tokens' frames sketch} :
    FramesOf tokens frames → OperandOf tokens' sketch →
    (∀ program arguments, sketch ≠ .simple program arguments) →
    OutlineOf (tokens ++ tokens') ⟨sketch, frames⟩
  | pending {tokens tokens' frames primary} (redirect : Redirect) :
    FramesOf tokens frames → OperandOf tokens' primary →
    OutlineOf (tokens ++ tokens' ++ [.operator redirect.operator])
      ⟨.redirection redirect primary none, frames⟩

theorem OperandOf.words (program : String) (arguments : List String) :
    OperandOf ((program :: arguments).map .word) (.simple program arguments) where
  isEmpty_eq := rfl
  isPending_eq := rfl
  build_eq command hbuild := by
    obtain rfl : some (.ofWords program arguments) = command := Except.ok.inj hbuild
    exact ⟨_, rfl, .base (.words program arguments), (height_ofWords program arguments).symm⟩

theorem OperandOf.redirected {tokens : List Token} {primary : Sketch} (redirect : Redirect)
    (path : String) (h : OperandOf tokens primary) :
    OperandOf (tokens ++ [.operator redirect.operator, .word path])
      (.redirection redirect primary (some path)) where
  isEmpty_eq := rfl
  isPending_eq := rfl
  build_eq command hbuild := by
    obtain ⟨first, hprimary, hrest⟩ := exists_of_bind_eq_ok hbuild
    obtain ⟨c, rfl, hoperand, hdepth⟩ := h.build_eq first hprimary
    obtain rfl : some (.redirection redirect c path) = command := Except.ok.inj hrest
    exact ⟨_, rfl, .redirected redirect path hoperand, by rw [Sketch.depth_redirection, hdepth]; rfl⟩

theorem OperandOf.item {tokens : List Token} {sketch : Sketch} (h : OperandOf tokens sketch) :
    ItemOf tokens sketch := by
  intro command hbuild
  obtain ⟨c, rfl, hoperand, hdepth⟩ := h.build_eq command hbuild
  exact ⟨.chain (.operand hoperand), hdepth⟩

theorem ItemOf.empty : ItemOf [] .empty := by
  intro command hbuild
  obtain rfl : none = command := Except.ok.inj hbuild
  exact ⟨.nothing, rfl⟩

/-- A connective with something after it that comes to a command joins a longer chain. -/
theorem ItemOf.joined {tokens tokens' : List Token} {primary secondary : Sketch}
    (connective : Connective) (h : OperandOf tokens primary) (h' : ItemOf tokens' secondary) :
    ItemOf (tokens ++ .operator connective.operator :: tokens')
      (.binary connective primary secondary) := by
  intro command hbuild
  obtain ⟨first, hprimary, hrest⟩ := exists_of_bind_eq_ok hbuild
  obtain ⟨c, rfl, hoperand, hdepth⟩ := h.build_eq first hprimary
  obtain ⟨second, hsecondary, hrest'⟩ := exists_of_bind_eq_ok hrest
  obtain ⟨hitem, hdepth'⟩ := h' second hsecondary
  cases hitem with
  | nothing => cases hrest'
  | @chain _ c' hchain =>
    obtain rfl : some (.binary connective c c') = command := Except.ok.inj hrest'
    exact ⟨.chain (.joined connective hoperand hchain),
      by rw [Sketch.depth_binary, hdepth, hdepth']; rfl⟩

/-- One more item ends. -/
theorem ItemsOf.push {tokens tokens' : List Token} {before : List Sketch} {sketch : Sketch}
    (h : ItemsOf tokens before) (h' : ItemOf tokens' sketch) :
    ItemsOf (tokens ++ (tokens' ++ [.operator .sequence])) (before ++ [sketch]) := by
  induction h with
  | nil => exact .cons h' .nil
  | cons hitem _ ih =>
    rw [List.append_assoc, List.cons_append]
    exact .cons hitem ih

/-- With one item more there are items of the grammar. -/
theorem ItemsOf.items {tokens tokens' : List Token} {before : List Sketch} {last : Sketch}
    (h : ItemsOf tokens before) (h' : ItemOf tokens' last) {commands : List (Option Command)}
    (hbuild : Sketch.buildAll (before ++ [last]) = .ok commands) :
    Items (tokens ++ tokens') commands ∧
      (before ++ [last]).map Sketch.depth = commands.map heightOf := by
  induction h generalizing commands with
  | nil =>
    obtain ⟨command, hlast, hrest⟩ := exists_of_bind_eq_ok hbuild
    obtain ⟨hitem, hdepth⟩ := h' command hlast
    obtain rfl : [command] = commands := Except.ok.inj hrest
    exact ⟨.last hitem, by rw [List.nil_append, List.map_singleton, List.map_singleton, hdepth]⟩
  | cons hitem _ ih =>
    obtain ⟨command, hfirst, hmore⟩ := exists_of_bind_eq_ok hbuild
    obtain ⟨rest, hrest, hlist⟩ := exists_of_bind_eq_ok hmore
    obtain ⟨hitem', hdepth⟩ := hitem command hfirst
    obtain ⟨hitems, hdepths⟩ := ih hrest
    obtain rfl : command :: rest = commands := Except.ok.inj hlist
    refine ⟨?_, ?_⟩
    · rw [List.append_assoc, List.cons_append]
      exact .cons hitem' hitems
    · rw [List.cons_append, List.map_cons, List.map_cons, hdepth, hdepths]

/-- A scope is an operand. -/
theorem OperandOf.scope {tokens tokens' : List Token} {before : List Sketch} {last : Sketch}
    (h : ItemsOf tokens before) (h' : ItemOf tokens' last) :
    OperandOf (.operator .openScope :: (tokens ++ tokens' ++ [.operator .closeScope]))
      (.sequence (before ++ [last]) true) where
  isEmpty_eq := rfl
  isPending_eq := rfl
  build_eq command hbuild := by
    obtain ⟨commands, hbuildAll, hgather⟩ := exists_of_bind_eq_ok hbuild
    obtain ⟨hitems, hdepths⟩ := h.items h' hbuildAll
    have hsome : commands.filterMap id ≠ [] := by
      intro hnone
      exact nomatch (gather_none hnone).symm.trans hgather
    have hcommand : command = some (.sequential (commands.filterMap id)) :=
      Except.ok.inj (hbuild.symm.trans (means_scope ⟨hbuildAll, hdepths⟩ hsome).1)
    exact ⟨_, hcommand, .base (.scope hitems hsome), depths_eq hdepths hsome⟩

/-- Going up from an item joins the operands in front of it. -/
theorem FramesOf.climb {tokens tokens' : List Token} {sketch : Sketch} {frames : List Frame}
    (h : FramesOf tokens frames) (h' : ItemOf tokens' sketch) :
    ∃ outer inner, tokens ++ tokens' = outer ++ inner ∧
      FramesOf outer (climb sketch frames).2 ∧ ItemOf inner (climb sketch frames).1 := by
  induction h generalizing sketch tokens' with
  | root => exact ⟨_, _, rfl, .root, h'⟩
  | operand connective _ hprimary ih =>
    obtain ⟨outer, inner, htokens, hframes, hitem⟩ := ih (.joined connective hprimary h')
    refine ⟨outer, inner, ?_, hframes, hitem⟩
    rw [← htokens]
    simp only [List.append_assoc, List.singleton_append]
  | scope hframes hitems => exact ⟨_, _, rfl, .scope hframes hitems, h'⟩
  | line hitems hsome => exact ⟨_, _, rfl, .line hitems hsome, h'⟩
  | lineFromSeparator hitems => exact ⟨_, _, rfl, .lineFromSeparator hitems, h'⟩

namespace OutlineOf

variable {tokens : List Token} {o o' : Outline}

/-- What is at the place, if anything, is an operand. -/
theorem operandOf (h : OutlineOf tokens o) (hfocus : o.focus.IsSettled) :
    ∃ outer inner, tokens = outer ++ inner ∧ FramesOf outer o.frames ∧
      OperandOf inner o.focus := by
  obtain ⟨hempty, hpending⟩ := hfocus
  cases h with
  | empty => cases hempty
  | words program arguments hframes => exact ⟨_, _, rfl, hframes, .words program arguments⟩
  | operand hframes hoperand => exact ⟨_, _, rfl, hframes, hoperand⟩
  | pending => cases hpending

/-- What is at the place is an item. -/
theorem itemOf (h : OutlineOf tokens o) (hpending : o.focus.isPending = false) :
    ∃ outer inner, tokens = outer ++ inner ∧ FramesOf outer o.frames ∧ ItemOf inner o.focus := by
  cases hempty : o.focus.isEmpty with
  | true =>
    cases h with
    | empty hframes => exact ⟨_, [], (List.append_nil _).symm, hframes, .empty⟩
    | words => cases hempty
    | operand _ hoperand => exact absurd (hempty.symm.trans hoperand.isEmpty_eq) (by simp)
    | pending => cases hpending
  | false =>
    obtain ⟨outer, inner, htokens, hframes, hoperand⟩ := h.operandOf ⟨hempty, hpending⟩
    exact ⟨outer, inner, htokens, hframes, hoperand.item⟩

theorem expectNoPendingPath {α : Type} {next : Unit → Except ParseError α} {a : α}
    (h : (o.expectNoPendingPath >>= next) = .ok a) :
    o.focus.isPending = false ∧ next () = .ok a := by
  obtain ⟨_, hcheck, hnext⟩ := exists_of_bind_eq_ok h
  unfold Outline.expectNoPendingPath at hcheck
  cases hpending : o.focus.isPending with
  | true =>
    rw [hpending] at hcheck
    cases hcheck
  | false => exact ⟨rfl, hnext⟩

theorem word {text : String} (h : OutlineOf tokens o) (hstep : o.word text = .ok o') :
    OutlineOf (tokens ++ [.word text]) o' := by
  cases h with
  | empty hframes =>
    obtain rfl := Except.ok.inj hstep
    exact .words text [] hframes
  | words program arguments hframes =>
    obtain rfl := Except.ok.inj hstep
    have hwords := OutlineOf.words program (arguments ++ [text]) hframes
    rw [List.append_assoc, ← List.map_singleton, ← List.map_append]
    exact hwords
  | @operand tokens tokens' frames sketch hframes hoperand hnotSimple =>
    cases sketch with
    | empty => cases hoperand.isEmpty_eq
    | simple program arguments => exact absurd rfl (hnotSimple program arguments)
    | sequence => cases hstep
    | binary => cases hstep
    | redirection redirect primary path =>
      cases path with
      | none => cases hoperand.isPending_eq
      | some => cases hstep
  | pending redirect hframes hoperand =>
    obtain rfl := Except.ok.inj hstep
    have hredirected := OutlineOf.operand hframes (hoperand.redirected redirect text) nofun
    rw [List.append_assoc, List.append_assoc]
    exact hredirected

theorem connective (connective : Connective) (h : OutlineOf tokens o)
    (hstep : o.connective connective = .ok o') :
    OutlineOf (tokens ++ [.operator connective.operator]) o' := by
  obtain ⟨hpending, hstep⟩ := expectNoPendingPath hstep
  split at hstep
  · cases hstep
  · rename_i hempty
    obtain ⟨outer, inner, rfl, hframes, hoperand⟩ :=
      h.operandOf ⟨Bool.eq_false_iff.2 hempty, hpending⟩
    obtain rfl := Except.ok.inj hstep
    exact .empty (.operand connective hframes hoperand)

theorem redirection (redirect : Redirect) (h : OutlineOf tokens o)
    (hstep : o.redirection redirect = .ok o') :
    OutlineOf (tokens ++ [.operator redirect.operator]) o' := by
  obtain ⟨hpending, hstep⟩ := expectNoPendingPath hstep
  split at hstep
  · cases hstep
  · rename_i hempty
    obtain ⟨outer, inner, rfl, hframes, hoperand⟩ :=
      h.operandOf ⟨Bool.eq_false_iff.2 hempty, hpending⟩
    obtain rfl := Except.ok.inj hstep
    exact .pending redirect hframes hoperand

theorem openScope (h : OutlineOf tokens o) (hstep : o.openScope = .ok o') :
    OutlineOf (tokens ++ [.operator .openScope]) o' := by
  obtain ⟨hpending, hstep⟩ := expectNoPendingPath hstep
  split at hstep
  · rename_i hempty
    obtain rfl := Except.ok.inj hstep
    cases h with
    | empty hframes => exact .empty (.scope hframes .nil)
    | words => cases hempty
    | operand _ hoperand => exact absurd (hempty.symm.trans hoperand.isEmpty_eq) (by simp)
    | pending => cases hpending
  · cases hstep

theorem closeScope (h : OutlineOf tokens o) (hstep : o.closeScope = .ok o') :
    OutlineOf (tokens ++ [.operator .closeScope]) o' := by
  obtain ⟨hpending, hstep⟩ := expectNoPendingPath hstep
  obtain ⟨outer, inner, rfl, hframes, hitem⟩ := h.itemOf hpending
  obtain ⟨outer', inner', htokens, hframes', hitem'⟩ := hframes.climb hitem
  generalize climb o.focus o.frames = climbed at hstep hframes' hitem'
  rcases climbed with ⟨sketch, frames⟩
  dsimp only at hstep hframes' hitem'
  rw [htokens]
  cases hframes' with
  | root => cases hstep
  | operand => cases hstep
  | scope hframes'' hitems =>
    obtain rfl := Except.ok.inj hstep
    have hclosed := OutlineOf.operand hframes'' (.scope hitems hitem') nofun
    simp only [List.append_assoc, List.cons_append] at hclosed ⊢
    exact hclosed
  | line => cases hstep
  | lineFromSeparator => cases hstep

theorem separator (h : OutlineOf tokens o) (hstep : o.separator = .ok o') :
    OutlineOf (tokens ++ [.operator .sequence]) o' := by
  obtain ⟨hpending, hstep⟩ := expectNoPendingPath hstep
  obtain ⟨outer, inner, rfl, hframes, hitem⟩ := h.itemOf hpending
  obtain ⟨outer', inner', htokens, hframes', hitem'⟩ := hframes.climb hitem
  have hne := climb_ne_operand o.focus o.frames
  generalize climb o.focus o.frames = climbed at hstep hframes' hitem' hne
  rcases climbed with ⟨sketch, frames⟩
  dsimp only at hstep hframes' hitem' hne
  rw [htokens]
  cases hframes' with
  | root =>
    obtain rfl := Except.ok.inj hstep
    unfold Outline.firstItem
    cases hempty : sketch.isEmpty with
    | true =>
      obtain rfl := Sketch.isEmpty_iff.1 hempty
      obtain ⟨hnothing, -⟩ := hitem' none rfl
      cases hnothing
      exact .empty (.lineFromSeparator .nil)
    | false => exact .empty (.line (.cons hitem' .nil) (List.cons_ne_nil _ _))
  | operand => exact absurd rfl (hne _ _ _)
  | scope hframes'' hitems =>
    obtain rfl := Except.ok.inj hstep
    have hnext := OutlineOf.empty (.scope hframes'' (hitems.push hitem'))
    simp only [List.append_assoc, List.cons_append] at hnext ⊢
    exact hnext
  | line hitems =>
    obtain rfl := Except.ok.inj hstep
    rw [List.append_assoc]
    exact .empty (.line (hitems.push hitem') (by simp))
  | lineFromSeparator hitems =>
    obtain rfl := Except.ok.inj hstep
    rw [List.append_assoc, List.cons_append]
    exact .empty (.lineFromSeparator (hitems.push hitem'))

theorem step {token : Token} (h : OutlineOf tokens o) (hstep : o.step token = .ok o') :
    OutlineOf (tokens ++ [token]) o' := by
  cases token with
  | word text => exact h.word hstep
  | operator op =>
    cases op with
    | sequence => exact h.separator hstep
    | conjunction => exact connective .conjunction h hstep
    | disjunction => exact connective .disjunction h hstep
    | pipe => exact connective .pipe h hstep
    | inputRedirect => exact redirection .input h hstep
    | outputRedirect => exact redirection .output h hstep
    | appendRedirect => exact redirection .append h hstep
    | openScope => exact h.openScope hstep
    | closeScope => exact h.closeScope hstep

theorem steps {tokens' : List Token} (h : OutlineOf tokens o) (hsteps : Reads o tokens' o') :
    OutlineOf (tokens ++ tokens') o' := by
  induction tokens' generalizing tokens o with
  | nil =>
    obtain rfl : o = o' := Except.ok.inj hsteps
    rwa [List.append_nil]
  | cons token rest ih =>
    unfold Reads Outline.steps at hsteps
    rw [List.foldlM_cons] at hsteps
    obtain ⟨o₁, hstep, hrest⟩ := exists_of_bind_eq_ok hsteps
    have htail := ih (h.step hstep) hrest
    rwa [List.append_assoc] at htail

/-- An outline that comes to a command or nothing was built from a line. -/
theorem line {command : Option Command} (h : OutlineOf tokens o)
    (hpending : o.focus.isPending = false) (hopen : o.frames.any Frame.isScope = false)
    (hbuild : o.whole.build = .ok command) :
    Line tokens command ∧ ∀ c, command = some c → o.whole.depth = c.height := by
  obtain ⟨outer, inner, rfl, hframes, hitem⟩ := h.itemOf hpending
  obtain ⟨outer', inner', htokens, hframes', hitem'⟩ := hframes.climb hitem
  have hne := climb_ne_operand o.focus o.frames
  rw [← Outline.whole_climb] at hbuild ⊢
  rw [← Outline.any_isScope_climb o.focus] at hopen
  generalize climb o.focus o.frames = climbed at hframes' hitem' hne hbuild hopen ⊢
  rcases climbed with ⟨sketch, frames⟩
  dsimp only at hframes' hitem' hne hbuild hopen ⊢
  rw [htokens]
  cases hframes' with
  | root =>
    obtain ⟨hline, hdepth⟩ := hitem' command hbuild
    refine ⟨.item hline, ?_⟩
    rintro c rfl
    exact hdepth
  | operand => exact absurd rfl (hne _ _ _)
  | scope => simp [Frame.isScope] at hopen
  | @line _ before hitems hsome =>
    obtain ⟨commands, hbuildAll, -⟩ := exists_of_bind_eq_ok hbuild
    obtain ⟨hline, hdepths⟩ := hitems.items hitem' hbuildAll
    obtain ⟨hsequence, -, hdepth⟩ := MeanAll.sequence ⟨hbuildAll, hdepths⟩
    obtain rfl : sequenceOf commands = command := Except.ok.inj (hsequence.symm.trans hbuild)
    refine ⟨.sequence hline ?_, hdepth⟩
    have hlength := congrArg List.length hdepths
    have hpos := List.length_pos_iff.2 hsome
    simp only [List.length_map, List.length_append, List.length_singleton] at hlength
    omega
  | lineFromSeparator hitems =>
    obtain ⟨commands, hbuildAll, -⟩ := exists_of_bind_eq_ok hbuild
    obtain ⟨hline, hdepths⟩ := hitems.items hitem' hbuildAll
    obtain ⟨hsequence, -, hdepth⟩ := MeanAll.sequence ⟨hbuildAll, hdepths⟩
    obtain rfl : sequenceOf commands = command := Except.ok.inj (hsequence.symm.trans hbuild)
    have hall : Line _ (sequenceOf (none :: commands)) := .sequence (.cons .nothing hline) ?_
    · exact ⟨hall, hdepth⟩
    have hlength := congrArg List.length hdepths
    simp only [List.length_map, List.length_append, List.length_cons] at hlength ⊢
    omega

end OutlineOf

/-! ## The parser and the grammar -/

theorem Completes.finish {o : Outline} {command : Option Command} (h : Completes o command) :
    o.finish = if maxDepth < o.whole.depth then .error (.nestingTooDeep maxDepth)
      else .ok command := by
  rw [Outline.finish, Outline.expectNoPendingPath, h.isPending_eq, h.any_isScope_eq, h.build_eq]
  rfl

/-- What the parser makes of a line depends on its depth only. -/
theorem parse_line {tokens : List Token} {command : Option Command} (h : Line tokens command) :
    ∃ depth, parse tokens = (if maxDepth < depth then .error (.nestingTooDeep maxDepth)
        else .ok command) ∧
      depth ≤ max 1 (heightOf command) ∧ ∀ c, command = some c → depth = c.height := by
  obtain ⟨o, hreads, hcompletes⟩ := reads_line h
  refine ⟨o.whole.depth, ?_, hcompletes.depth_le, hcompletes.depth_eq⟩
  rw [parse_eq, ← hcompletes.finish, show Outline.initial.steps tokens = .ok o from hreads]
  rfl

/-- What the parser accepts is a line. -/
theorem line_of_parse {tokens : List Token} {command : Option Command}
    (h : parse tokens = .ok command) :
    Line tokens command ∧ ∀ c, command = some c → c.height ≤ maxDepth := by
  rw [parse_eq] at h
  obtain ⟨o, hreads, hfinish⟩ := exists_of_bind_eq_ok h
  obtain ⟨hpending, hfinish⟩ := OutlineOf.expectNoPendingPath hfinish
  split at hfinish
  · cases hfinish
  · rename_i hopen
    split at hfinish
    · cases hfinish
    · rename_i hdepth
      have houtline := (OutlineOf.empty FramesOf.root).steps hreads
      obtain ⟨hline, heq⟩ := houtline.line hpending (Bool.eq_false_iff.2 hopen) hfinish
      exact ⟨hline, fun c hc => heq c hc ▸ Nat.le_of_not_lt hdepth⟩

/-- The parser comes to a command or nothing just when the tokens are a line that stands for it and
is not too high.  If the only thing wrong with a line is its height, that is what the parser says;
and what is no line is an error. -/
theorem parse_grammar (tokens : List Token) :
    (∀ command, parse tokens = .ok command ↔
      Line tokens command ∧ ∀ c, command = some c → c.height ≤ 1000) ∧
    (∀ c, Line tokens (some c) → 1000 < c.height →
      parse tokens = .error (.nestingTooDeep 1000)) ∧
    ((¬ ∃ command, Line tokens command) → ∃ e, parse tokens = .error e) := by
  refine ⟨fun command => ⟨line_of_parse, ?_⟩, ?_, ?_⟩
  · rintro ⟨hline, hheight⟩
    obtain ⟨depth, hparse, hle, heq⟩ := parse_line hline
    have hshallow : ¬ maxDepth < depth := by
      cases command with
      | none => exact Nat.not_lt_of_le (Nat.le_trans hle (by decide))
      | some c => exact heq c rfl ▸ Nat.not_lt_of_le (hheight c rfl)
    rw [hparse, if_neg hshallow]
  · intro c hline hhigh
    obtain ⟨depth, hparse, -, heq⟩ := parse_line hline
    rw [hparse, heq c rfl]
    exact if_pos hhigh
  · intro hnone
    cases hparse : parse tokens with
    | error e => exact ⟨e, rfl⟩
    | ok command => exact absurd ⟨command, (line_of_parse hparse).1⟩ hnone

end Parser

end CommandShell
