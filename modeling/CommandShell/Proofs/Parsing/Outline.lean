import CommandShell.Command.Parser
set_option autoImplicit false

/-!
# Outlines

What the parser has built can be seen without slots: as a sketch of the command at the current
place, and what stands around it up to the root.  The parser on outlines is written here once more,
token by token and with every error; that the parser on the arena does the same is proved in a
module of its own.
-/

namespace CommandShell

namespace Parser

/-! ## Sketches -/

/-- A command under construction, with its parts in it. -/
inductive Sketch where
  | empty
  | simple (program : String) (arguments : List String)
  | sequence (items : List Sketch) (enclosed : Bool)
  | binary (connective : Connective) (primary secondary : Sketch)
  | redirection (redirect : Redirect) (primary : Sketch) (path : Option String)

/-- The command of a sequence whose items have come to commands or nothing. -/
def gather (enclosed : Bool) (commands : List (Option Command)) :
    Except ParseError (Option Command) :=
  match commands.filterMap id, enclosed with
  | [], true => .error .emptyScope
  | [], false => .ok none
  | commands, _ => .ok (some (.sequential commands))

/-- A scope without a command is refused. -/
theorem gather_none {commands : List (Option Command)} (h : commands.filterMap id = []) :
    gather true commands = .error .emptyScope := by
  unfold gather
  rw [h]

/-- Items with a command among them come to the sequence of their commands. -/
theorem gather_some (enclosed : Bool) {commands : List (Option Command)}
    (h : commands.filterMap id ≠ []) :
    gather enclosed commands = .ok (some (.sequential (commands.filterMap id))) := by
  unfold gather
  generalize commands.filterMap id = found at h ⊢
  cases found with
  | nil => exact absurd rfl h
  | cons => rfl

/-- The command of two operands that have come to commands or nothing. -/
def join (connective : Connective) (primary : Except ParseError (Option Command))
    (secondary : Except ParseError (Option Command)) : Except ParseError (Option Command) := do
  let some primary ← primary | throw (.connectiveWithoutCommand connective)
  let some secondary ← secondary | throw (.connectiveWithoutOperand connective)
  return some (.binary connective primary secondary)

/-- The command of a redirection whose operand has come to a command or nothing. -/
def redirect (redirect : Redirect) (path : Option String)
    (primary : Except ParseError (Option Command)) : Except ParseError (Option Command) := do
  let some primary ← primary | throw .redirectionWithoutCommand
  let some path := path | throw .redirectionWithoutPath
  return some (.redirection redirect primary path)

namespace Sketch

mutual

/-- The command of a sketch, if it has one. -/
def build : Sketch → Except ParseError (Option Command)
  | empty => .ok none
  | simple program arguments => .ok (some (.ofWords program arguments))
  | sequence items enclosed => do gather enclosed (← buildAll items)
  | binary connective primary secondary => join connective primary.build secondary.build
  | redirection direction primary path => redirect direction path primary.build

/-- The commands of sketches, up to the first that is none. -/
def buildAll : List Sketch → Except ParseError (List (Option Command))
  | [] => .ok []
  | item :: rest => do
    let command ← item.build
    return command :: (← buildAll rest)

end

/-- How many steps the longest path down takes. -/
def depth : Sketch → Nat
  | empty | simple .. => 0
  | sequence items _ => depths items
  | binary _ primary secondary => max primary.depth secondary.depth + 1
  | redirection _ primary _ => primary.depth + 1
where
  /-- One more than the largest depth in the list, and 0 for the empty list. -/
  depths : List Sketch → Nat
    | [] => 0
    | item :: rest => max (item.depth + 1) (depths rest)

section Equations

variable (connective : Connective) (primary secondary item : Sketch) (items : List Sketch)

theorem build_sequence (enclosed : Bool) :
    (sequence items enclosed).build = (do gather enclosed (← buildAll items)) := rfl

theorem build_binary :
    (binary connective primary secondary).build
      = join connective primary.build secondary.build := rfl

theorem build_redirection (direction : Redirect) (path : Option String) :
    (redirection direction primary path).build = redirect direction path primary.build := rfl

theorem buildAll_cons :
    buildAll (item :: items) = (do
      let command ← item.build
      return command :: (← buildAll items)) := rfl

theorem depth_sequence (enclosed : Bool) :
    (sequence items enclosed).depth = depth.depths items := rfl

theorem depth_binary :
    (binary connective primary secondary).depth = max primary.depth secondary.depth + 1 := rfl

theorem depth_redirection (direction : Redirect) (path : Option String) :
    (redirection direction primary path).depth = primary.depth + 1 := rfl

theorem depths_cons :
    depth.depths (item :: items) = max (item.depth + 1) (depth.depths items) := rfl

end Equations

/-- It is a redirection that waits for its path. -/
def isPending : Sketch → Bool
  | redirection _ _ none => true
  | _ => false

/-- There is nothing in it. -/
def isEmpty : Sketch → Bool
  | empty => true
  | _ => false

theorem isEmpty_iff {sketch : Sketch} : sketch.isEmpty = true ↔ sketch = empty := by
  cases sketch <;> simp [isEmpty]

end Sketch

/-! ## Outlines -/

/-- What stands around a place, one step up. -/
inductive Frame where
  /-- The place is the second operand of a connective. -/
  | operand (connective : Connective) (primary : Sketch)
  /-- The place is the last item of a sequence, so far. -/
  | item (before : List Sketch) (enclosed : Bool)

/-- The sketch one step up. -/
def Frame.plug (sketch : Sketch) : Frame → Sketch
  | operand connective primary => .binary connective primary sketch
  | item before enclosed => .sequence (before ++ [sketch]) enclosed

/-- The place stands in a scope between parentheses. -/
def Frame.isScope : Frame → Bool
  | item _ enclosed => enclosed
  | operand .. => false

/-- What has been built: the sketch at the current place and the frames around it, the innermost
first. -/
structure Outline where
  focus : Sketch
  frames : List Frame

/-- Goes up to the item that a place belongs to, or to the root. -/
def climb : Sketch → List Frame → Sketch × List Frame
  | sketch, .operand connective primary :: frames =>
    climb (.binary connective primary sketch) frames
  | sketch, frames => (sketch, frames)

/-- Above all operands there is an item or nothing. -/
theorem climb_ne_operand (sketch : Sketch) (frames : List Frame) (connective : Connective)
    (primary : Sketch) (above : List Frame) :
    (climb sketch frames).2 ≠ .operand connective primary :: above := by
  induction frames generalizing sketch with
  | nil => simp [climb]
  | cons frame frames ih =>
    cases frame with
    | operand => exact ih _
    | item => simp [climb]

namespace Outline

/-- Before the first token. -/
def initial : Outline := ⟨.empty, []⟩

/-- The whole sketch. -/
def whole (o : Outline) : Sketch := o.frames.foldl Frame.plug o.focus

/-- Going up does not change the whole. -/
theorem whole_climb (sketch : Sketch) (frames : List Frame) :
    whole ⟨(climb sketch frames).1, (climb sketch frames).2⟩ = whole ⟨sketch, frames⟩ := by
  induction frames generalizing sketch with
  | nil => rfl
  | cons frame frames ih =>
    cases frame with
    | operand connective primary => exact ih _
    | item => rfl

/-- Going up does not leave a scope. -/
theorem any_isScope_climb (sketch : Sketch) (frames : List Frame) :
    (climb sketch frames).2.any Frame.isScope = frames.any Frame.isScope := by
  induction frames generalizing sketch with
  | nil => rfl
  | cons frame frames ih =>
    cases frame with
    | operand connective primary => exact ih _
    | item => rfl

/-- Nothing but a word may follow a redirection operator. -/
def expectNoPendingPath (o : Outline) : Except ParseError Unit :=
  if o.focus.isPending then .error .redirectionWithoutPath else .ok ()

/-- A word goes where there is room for it. -/
def word (o : Outline) (text : String) : Except ParseError Outline :=
  match o.focus with
  | .redirection redirect primary none =>
    .ok { o with focus := .redirection redirect primary (some text) }
  | .empty => .ok { o with focus := .simple text [] }
  | .simple program arguments => .ok { o with focus := .simple program (arguments ++ [text]) }
  | _ => .error (.wordInInvalidPosition text)

/-- The items before the next one in a line whose first separator comes after the given sketch.  An
empty one is left out there. -/
def firstItem (sketch : Sketch) : List Sketch := if sketch.isEmpty then [] else [sketch]

/-- A separator ends an item and starts the next one. -/
def separator (o : Outline) : Except ParseError Outline := do
  o.expectNoPendingPath
  match climb o.focus o.frames with
  | (sketch, .item before enclosed :: frames) =>
    .ok ⟨.empty, .item (before ++ [sketch]) enclosed :: frames⟩
  | (sketch, _) => .ok ⟨.empty, [.item (firstItem sketch) false]⟩

/-- A connective takes what is at the place for its first operand and goes on in the second. -/
def connective (o : Outline) (connective : Connective) : Except ParseError Outline := do
  o.expectNoPendingPath
  if o.focus.isEmpty then .error (.connectiveWithoutCommand connective)
  else .ok ⟨.empty, .operand connective o.focus :: o.frames⟩

/-- A redirection takes what is at the place and waits for its path. -/
def redirection (o : Outline) (redirect : Redirect) : Except ParseError Outline := do
  o.expectNoPendingPath
  if o.focus.isEmpty then .error .redirectionWithoutCommand
  else .ok { o with focus := .redirection redirect o.focus none }

/-- An opening parenthesis starts the first item of a scope. -/
def openScope (o : Outline) : Except ParseError Outline := do
  o.expectNoPendingPath
  if o.focus.isEmpty then .ok ⟨.empty, .item [] true :: o.frames⟩
  else .error .scopeAfterCommand

/-- A closing parenthesis ends the last item of a scope, and the scope. -/
def closeScope (o : Outline) : Except ParseError Outline := do
  o.expectNoPendingPath
  match climb o.focus o.frames with
  | (sketch, .item before true :: frames) => .ok ⟨.sequence (before ++ [sketch]) true, frames⟩
  | _ => .error .unbalancedClose

/-- What one token does. -/
def step (o : Outline) : Token → Except ParseError Outline
  | .word text => o.word text
  | .operator .sequence => o.separator
  | .operator .conjunction => o.connective .conjunction
  | .operator .disjunction => o.connective .disjunction
  | .operator .pipe => o.connective .pipe
  | .operator .inputRedirect => o.redirection .input
  | .operator .outputRedirect => o.redirection .output
  | .operator .appendRedirect => o.redirection .append
  | .operator .openScope => o.openScope
  | .operator .closeScope => o.closeScope

/-- What a list of tokens builds. -/
def steps (o : Outline) (tokens : List Token) : Except ParseError Outline :=
  tokens.foldlM step o

/-- After the last token nothing may be left open, and the whole becomes a command. -/
def finish (o : Outline) : Except ParseError (Option Command) := do
  o.expectNoPendingPath
  if o.frames.any Frame.isScope then .error .unbalancedOpen
  else if maxDepth < o.whole.depth then .error (.nestingTooDeep maxDepth)
  else o.whole.build

end Outline

end Parser

end CommandShell
