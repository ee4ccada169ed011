import CommandShell.Token
import CommandShell.Command
set_option autoImplicit false

/-!
# Parsing commands

The parser goes once through the tokens and builds an arena of drafts that refer to one another by
slot.  It keeps a current slot, the place where the next command goes: words fill it, a connective
moves its content down into the first operand of a new draft and goes on in the second, and a
parenthesis remembers the slot to come back to.  At the end the drafts below the root become the
command, if no path down from the root is too long.
-/

namespace CommandShell

/-- Why a list of tokens is no command. -/
inductive ParseError where
  /-- A word right after a closing parenthesis or after the path of a redirection. -/
  | wordInInvalidPosition (word : String)
  /-- A connective where no command stands before it. -/
  | connectiveWithoutCommand (connective : Connective)
  /-- A connective where no command follows it. -/
  | connectiveWithoutOperand (connective : Connective)
  /-- A redirection where no command stands before it. -/
  | redirectionWithoutCommand
  /-- A redirection that is not followed by a word. -/
  | redirectionWithoutPath
  /-- An opening parenthesis right after a command. -/
  | scopeAfterCommand
  /-- Parentheses without a command between them. -/
  | emptyScope
  | unbalancedClose
  | unbalancedOpen
  /-- A path down from the root has more steps than the limit. -/
  | nestingTooDeep (limit : Nat)
  deriving DecidableEq

/-- What messages call a connective. -/
def Connective.name : Connective → String
  | conjunction => "conjunction"
  | disjunction => "disjunction"
  | pipe => "pipe"

/-- The wording of a parser error. -/
def ParseError.message : ParseError → String
  | wordInInvalidPosition word => "word " ++ Text.quoted word ++ " in invalid position"
  | connectiveWithoutCommand connective => connective.name ++ " must follow a command"
  | connectiveWithoutOperand connective => connective.name ++ " must be followed by a command"
  | redirectionWithoutCommand => "redirection must follow a command"
  | redirectionWithoutPath => "redirection must be followed by a path"
  | scopeAfterCommand => "scope must not follow a command"
  | emptyScope => "empty scope"
  | unbalancedClose => "unbalanced closing parenthesis"
  | unbalancedOpen => "unbalanced opening parenthesis"
  | nestingTooDeep limit => "commands nested deeper than " ++ toString limit ++ " levels"

namespace Parser

/-- The place of a draft in the arena. -/
abbrev SlotId := Nat

/-- A command under construction.  Its parts are referred to by slot, so that a slot can be filled
again without a change to the draft that refers to it. -/
inductive Draft where
  | simple (program : String) (arguments : Array String)
  /-- Items in order; `enclosed` when the sequence stands between parentheses. -/
  | sequence (items : Array SlotId) (enclosed : Bool)
  | binary (connective : Connective) (primary secondary : SlotId)
  /-- The path is missing until the word after the operator has been read. -/
  | redirection (redirect : Redirect) (primary : SlotId) (path : Option String)
  deriving DecidableEq

/-- The slots a draft refers to, in order. -/
def Draft.children : Draft → List SlotId
  | simple .. => []
  | sequence items _ => items.toList
  | binary _ primary secondary => [primary, secondary]
  | redirection _ primary _ => [primary]

/-- An open scope: the slot of its sequence, and the slot to come back to when it closes. -/
structure Scope where
  sequence : SlotId
  restore : SlotId
  deriving DecidableEq

/-- The arena of drafts; an allocated slot may still be empty. -/
abbrev Slots := Array (Option Draft)

/-- The slot of the whole command. -/
def root : SlotId := 0

/-- The longest path down from the root that is accepted. -/
def maxDepth : Nat := 1000

/-- What the tokens read so far have built. -/
structure State where
  slots : Slots
  /-- Where the next command goes. -/
  current : SlotId
  /-- The open scopes, the innermost one first. -/
  scopes : List Scope
  /-- A separator outside all parentheses has made the root a sequence, whose scope is the
  outermost one. -/
  rootSequence : Bool
  /-- The redirection whose path is the next word. -/
  pendingPath : Option SlotId
  deriving DecidableEq

/-- Before the first token: an empty root. -/
def State.initial : State := ⟨#[none], root, [], false, none⟩

namespace State

/-- The draft in a slot. -/
def draft? (s : State) (id : SlotId) : Option Draft := s.slots[id]?.join

/-- Replaces the content of a slot. -/
def fill (s : State) (id : SlotId) (draft : Option Draft) : State :=
  { s with slots := s.slots.setIfInBounds id draft }

/-- Adds a slot; its number is the size of the arena before. -/
def alloc (s : State) (draft : Option Draft) : State :=
  { s with slots := s.slots.push draft }

/-- Nothing but a word may follow a redirection operator. -/
def expectNoPendingPath (s : State) : Except ParseError Unit :=
  match s.pendingPath with
  | some _ => .error .redirectionWithoutPath
  | none => .ok ()

/-- A word is the path that a redirection waits for, the program of an empty current slot, or one
more argument of the simple command there. -/
def word (s : State) (text : String) : Except ParseError State :=
  match s.pendingPath with
  | some id =>
    match s.draft? id with
    | some (.redirection redirect primary _) =>
      .ok { s.fill id (some (.redirection redirect primary (some text))) with pendingPath := none }
    | _ => .ok { s with pendingPath := none }
  | none =>
    match s.draft? s.current with
    | none => .ok (s.fill s.current (some (.simple text #[])))
    | some (.simple program arguments) =>
      .ok (s.fill s.current (some (.simple program (arguments.push text))))
    | some _ => .error (.wordInInvalidPosition text)

/-- Makes the root a sequence whose first item is what the root held. -/
def openRootSequence (s : State) : State :=
  let scope : Scope := ⟨root, s.current⟩
  match s.draft? root with
  | some existing =>
    let id := s.slots.size
    let s := (s.alloc (some existing)).fill root (some (.sequence #[id] false))
    { s with scopes := [scope], rootSequence := true }
  | none =>
    let s := s.fill root (some (.sequence #[] false))
    { s with scopes := [scope], rootSequence := true }

/-- Adds an empty item to the sequence of the innermost scope and makes it current. -/
def nextItem (s : State) : State :=
  let sequence := (s.scopes.head?.map Scope.sequence).getD root
  let next := s.slots.size
  let s := s.alloc none
  let s := match s.draft? sequence with
    | some (.sequence items enclosed) =>
      s.fill sequence (some (.sequence (items.push next) enclosed))
    | _ => s
  { s with current := next }

/-- A separator starts the next item of the innermost scope; outside all parentheses the root is
that scope. -/
def separator (s : State) : Except ParseError State := do
  s.expectNoPendingPath
  return (if s.scopes.isEmpty then s.openRootSequence else s).nextItem

/-- A connective takes the current command for its first operand and goes on in the second. -/
def connective (s : State) (connective : Connective) : Except ParseError State := do
  s.expectNoPendingPath
  match s.draft? s.current with
  | none => throw (.connectiveWithoutCommand connective)
  | some existing =>
    let primary := s.slots.size
    let secondary := primary + 1
    let s := ((s.alloc (some existing)).alloc none).fill s.current
      (some (.binary connective primary secondary))
    return { s with current := secondary }

/-- A redirection takes the current command and waits for its path. -/
def redirection (s : State) (redirect : Redirect) : Except ParseError State := do
  s.expectNoPendingPath
  match s.draft? s.current with
  | none => throw .redirectionWithoutCommand
  | some existing =>
    let primary := s.slots.size
    let s := (s.alloc (some existing)).fill s.current (some (.redirection redirect primary none))
    return { s with pendingPath := some s.current }

/-- An opening parenthesis makes the current slot a sequence with one empty item. -/
def openScope (s : State) : Except ParseError State := do
  s.expectNoPendingPath
  if (s.draft? s.current).isSome then throw .scopeAfterCommand
  let inner := s.slots.size
  let s := (s.alloc none).fill s.current (some (.sequence #[inner] true))
  return { s with scopes := ⟨s.current, s.current⟩ :: s.scopes, current := inner }

/-- A closing parenthesis goes back to where the innermost scope stands.  The root's own scope is
not closed by one. -/
def closeScope (s : State) : Except ParseError State := do
  s.expectNoPendingPath
  match s.scopes with
  | [] => throw .unbalancedClose
  | scope :: outer =>
    if outer.isEmpty && s.rootSequence then throw .unbalancedClose
    return { s with scopes := outer, current := scope.restore }

/-- What one token does. -/
def step (s : State) : Token → Except ParseError State
  | .word text => s.word text
  | .operator .sequence => s.separator
  | .operator .conjunction => s.connective .conjunction
  | .operator .disjunction => s.connective .disjunction
  | .operator .pipe => s.connective .pipe
  | .operator .inputRedirect => s.redirection .input
  | .operator .outputRedirect => s.redirection .output
  | .operator .appendRedirect => s.redirection .append
  | .operator .openScope => s.openScope
  | .operator .closeScope => s.closeScope

end State

/-- No path down from the slot has `fuel` steps. -/
def withinDepth (slots : Slots) : Nat → SlotId → Bool
  | 0, _ => false
  | fuel + 1, slot =>
    match slots[slot]?.join with
    | none => true
    | some draft => draft.children.all (withinDepth slots fuel)

/-- The command of a slot, if it has one.  Empty items of a sequence are left out; a sequence of
none is no command, and between parentheses an error. -/
def build (slots : Slots) : Nat → SlotId → Except ParseError (Option Command)
  | 0, _ => .error (.nestingTooDeep maxDepth)
  | fuel + 1, slot =>
    match slots[slot]?.join with
    | none => .ok none
    | some (.simple program arguments) => .ok (some (.ofWords program arguments.toList))
    | some (.sequence items enclosed) => do
      let commands ← items.toList.mapM (build slots fuel)
      match commands.filterMap id, enclosed with
      | [], true => throw .emptyScope
      | [], false => return none
      | commands, _ => return some (.sequential commands)
    | some (.binary connective primary secondary) => do
      let some primary ← build slots fuel primary
        | throw (.connectiveWithoutCommand connective)
      let some secondary ← build slots fuel secondary
        | throw (.connectiveWithoutOperand connective)
      return some (.binary connective primary secondary)
    | some (.redirection redirect primary path) => do
      let some primary ← build slots fuel primary | throw .redirectionWithoutCommand
      let some path := path | throw .redirectionWithoutPath
      return some (.redirection redirect primary path)

/-- After the last token: nothing may be left open, and the drafts become a command. -/
def State.finish (s : State) : Except ParseError (Option Command) := do
  s.expectNoPendingPath
  if s.scopes.length > (if s.rootSequence then 1 else 0) then throw .unbalancedOpen
  if !withinDepth s.slots (maxDepth + 1) root then throw (.nestingTooDeep maxDepth)
  build s.slots (maxDepth + 1) root

/-- What a list of tokens builds, starting from a state. -/
def State.steps (s : State) (tokens : List Token) : Except ParseError State :=
  tokens.foldlM State.step s

end Parser

/-- The command that the tokens stand for; none if there is nothing but separators. -/
def parse (tokens : List Token) : Except ParseError (Option Command) := do
  (← Parser.State.initial.steps tokens).finish

end CommandShell
