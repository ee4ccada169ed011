import CommandShell.Machine.Program.Basic
import CommandShell.Machine.SystemShell.Syntax
set_option autoImplicit false

/-!
# Braces

In the extended dialect a word with several pieces in braces stands for several words, and so does
one with the ends of a sequence.  This is a matter of the text alone, before anything is replaced.
-/

namespace CommandShell.Machine.SystemShell.Braces

/-- A character of a word that stands by itself, or a part that is none of that. -/
inductive Item where
  | char (c : Char)
  | part (part : Part)

/-- The items of a word. -/
def itemsOf (parts : List Part) : List Item :=
  parts.flatMap fun
    | .text text false => text.toList.map .char
    | part => [.part part]

/-- The parts of items. -/
def partsOf (items : List Item) : List Part :=
  items.foldr (fun item parts =>
    match item, parts with
    | .char c, .text text false :: rest => .text (c.toString ++ text) false :: rest
    | .char c, parts => .text c.toString false :: parts
    | .part part, parts => part :: parts) []

/-- The pieces up to the brace that closes them, divided at commas, and what follows it; none if
nothing closes them.  The piece under way has its last item first. -/
def split : (depth : Nat) → (current : List Item) → List Item →
    Option (List (List Item) × List Item)
  | _, _, [] => none
  | depth, current, .char '\x7b' :: rest => split (depth + 1) (.char '\x7b' :: current) rest
  | 0, current, .char '\x7d' :: rest => some ([current.reverse], rest)
  | depth + 1, current, .char '\x7d' :: rest => split depth (.char '\x7d' :: current) rest
  | 0, current, .char ',' :: rest =>
    (split 0 [] rest).map fun (pieces, rest) => (current.reverse :: pieces, rest)
  | depth, current, item :: rest => split depth (item :: current) rest

/-! ## Sequences -/

/-- The numbers from one to another, with a step between them. -/
def numbersBetween (first last step : Int) : List Int :=
  let size := if step = 0 then 1 else step.natAbs
  let count := (last - first).natAbs / size
  let signed : Int := if first ≤ last then size else -(size : Int)
  (List.range (count + 1)).map fun (i : Nat) => first + signed * i

/-- A number with zeros in front, up to a width. -/
def padded (width : Nat) (n : Int) : String :=
  let digits := toString n.natAbs
  let sign := if n < 0 then "-" else ""
  sign ++ String.ofList (List.replicate (width - sign.length - digits.length) '0') ++ digits

/-- The number is written with a zero in front. -/
def startsWithZero (word : String) : Bool :=
  match word.toList with
  | '-' :: '0' :: _ :: _ | '0' :: _ :: _ => true
  | _ => false

/-- The members of a sequence. -/
def sequence? (text : String) : Option (List String) := do
  let (first, last, step) ← match text.splitOn ".." with
    | [first, last] => some (first, last, 1)
    | [first, last, step] => (Program.integer? step).map fun step => (first, last, step)
    | _ => none
  match Program.integer? first, Program.integer? last with
  | some a, some b =>
    let width := if startsWithZero first || startsWithZero last then max first.length last.length
      else 0
    some ((numbersBetween a b step).map (padded width))
  | _, _ =>
    match first.toList, last.toList with
    | [a], [b] =>
      if a.isAlpha && b.isAlpha then
        some ((numbersBetween a.toNat b.toNat step).map fun n =>
          (Char.ofNat n.toNat).toString)
      else none
    | _, _ => none

/-- The text of items, if they are nothing but characters. -/
def text? (items : List Item) : Option String :=
  (items.mapM fun (item : Item) =>
    match item with
    | .char c => some c
    | .part _ => none).map String.ofList

/-! ## Expansion -/

/-- The words that items stand for. -/
def expandItems : (fuel : Nat) → List Item → List (List Item)
  | 0, items => [items]
  | _, [] => [[]]
  | fuel + 1, .char '\x7b' :: rest =>
    let alternatives? : Option (List (List Item) × List Item) :=
      match split 0 [] rest with
      | some ([single], after) =>
        ((text? single).bind sequence?).map fun members =>
          (members.map fun member => member.toList.map Item.char, after)
      | some (pieces, after) => some (pieces.flatMap (expandItems fuel), after)
      | none => none
    match alternatives? with
    | some (alternatives, after) =>
      let endings := expandItems fuel after
      alternatives.flatMap fun front => endings.map fun ending => front ++ ending
    | none => (expandItems fuel rest).map fun items => .char '\x7b' :: items
  | fuel + 1, item :: rest => (expandItems fuel rest).map fun items => item :: items

/-- The words that a word stands for. -/
def expand (parts : List Part) : List (List Part) :=
  let items := itemsOf parts
  let opens := items.any fun
    | .char c => c = '\x7b'
    | .part _ => false
  if opens then (expandItems (items.length + 1) items).map partsOf else [parts]

end CommandShell.Machine.SystemShell.Braces
