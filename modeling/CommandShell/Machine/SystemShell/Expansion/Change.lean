import CommandShell.Machine.SystemShell.Pattern
import CommandShell.Machine.SystemShell.Quoting
import CommandShell.Machine.SystemShell.Variable
set_option autoImplicit false

/-!
# Changed values

What the extended dialect makes of the value of a parameter: pieces of it, other texts in the place
of what a pattern fits, other letters, and forms that read back as the same value.
-/

namespace CommandShell.Machine.SystemShell

/-! ## Replacing -/

/-- A text that takes the place of another one; `none` stands for what was there. -/
abbrev Replacement := List (Option UInt8)

/-- The bytes of a replacement for some bytes. -/
def Replacement.fill (new : Replacement) (old : List UInt8) : List UInt8 :=
  new.flatMap fun
    | some byte => [byte]
    | none => old

/-- A text with a replacement for what steps fit, wherever that is or only the first time. -/
def replaceFits (steps : List PatternStep) (fold : List UInt8 → List UInt8) (every : Bool)
    (new : Replacement) : (fuel : Nat) → List UInt8 → List UInt8
  | 0, text => text
  | _, [] => []
  | fuel + 1, byte :: rest =>
    let text := byte :: rest
    match longestFit? steps (fold text) with
    | some 0 | none => byte :: replaceFits steps fold every new fuel rest
    | some size =>
      let others := text.drop size
      new.fill (text.take size)
        ++ (if every then replaceFits steps fold every new fuel others else others)

/-- A text with a replacement for what a pattern fits. -/
def replacePattern (rules : PatternRules) (scope : ReplaceScope) (pattern : List Glyph)
    (new : Replacement) (text : List UInt8) : List UInt8 :=
  let steps := rules.steps pattern
  match scope with
  | .atBeginning =>
    match longestFit? steps (rules.fold text) with
    | some size => new.fill (text.take size) ++ text.drop size
    | none => text
  | .atEnd =>
    match (List.range (text.length + 1)).find? fun start =>
        fits steps (rules.fold (text.drop start)) with
    | some start => text.take start ++ new.fill (text.drop start)
    | none => text
  | scope =>
    if text.isEmpty && !steps.isEmpty && fits steps [] then new.fill []
    else replaceFits steps rules.fold (scope = .every) new (text.length + 1) text

/-! ## Letters -/

/-- A byte with its letter changed. -/
def CaseChange.applyByte (change : CaseChange) (byte : UInt8) : UInt8 :=
  if byte < 0x80 then UInt8.ofNat (change.apply (Program.asciiChar byte)).toNat else byte

/-- A text with its letters changed where a pattern fits them; an empty pattern fits all. -/
def changeLetters (change : CaseChange) (every : Bool) (steps : List PatternStep)
    (text : List UInt8) : List UInt8 :=
  let one (byte : UInt8) : UInt8 :=
    if steps.isEmpty || fits steps [byte] then change.applyByte byte else byte
  match text with
  | [] => []
  | first :: rest => one first :: (if every then rest.map one else rest)

/-! ## Pieces -/

/-- Where a piece of something of a size begins, for an offset that may count from the end; none if
that is outside. -/
def pieceStart? (size : Nat) (offset : Int) : Option Nat :=
  let start := if offset < 0 then size + offset else offset
  if start < 0 || start > size then none else some start.toNat

/-- How much of something of a size is taken from a start on; a length below zero counts from the
end.  None if the end is before the start. -/
def pieceLength? (size start : Nat) (length : Option Int) : Option Nat :=
  match length with
  | none => some (size - start)
  | some length =>
    if length ≥ 0 then some (min length.toNat (size - start))
    else
      let last := size + length
      if last < start then none else some (last - start).toNat

/-! ## Forms -/

/-- The letters that stand for the attributes of a variable. -/
def attributeLetters (v : Variable) : String :=
  (match v.shape with
    | .single => ""
    | .indexed => "a"
    | .associative => "A")
    ++ (if v.isInteger then "i" else "") ++ (if v.isReference then "n" else "")
    ++ (if v.isReadOnly then "r" else "") ++ (if v.isExported then "x" else "")
    ++ (match v.letters with
      | some .lower => "l"
      | some .upper => "u"
      | _ => "")

/-- A place of an element as it is written in brackets. -/
def shownPlace (shape : Shape) (place : String) : String :=
  match shape with
  | .associative =>
    if Quoting.needsEscapes place then Quoting.escaped place
    else if place = "" || Quoting.hasMeaning place || place = "@" then Quoting.doubleQuoted place
    else place
  | _ => place

/-- The elements of a variable as they are written in parentheses. -/
def shownElements (v : Variable) : String :=
  let shown := v.elements.map fun (place, value) =>
    "[" ++ shownPlace v.shape place ++ "]=" ++ Quoting.asValue value
  let text := " ".intercalate shown
  "(" ++ text ++ (if v.shape = .associative && !v.elements.isEmpty then " )" else ")")

end CommandShell.Machine.SystemShell
