import CommandShell.Machine.Program.Basic
set_option autoImplicit false

/-!
# Patterns

A pattern stands for the texts that it fits: `*` fits every text, `?` every byte and a list in
brackets the bytes in it.  A byte in quotes fits only itself.
-/

namespace CommandShell.Machine.SystemShell

/-- A byte of a word; in quotes it has no meaning of its own. -/
structure Glyph where
  byte : UInt8
  quoted : Bool
  deriving DecidableEq

/-- The byte stands here, and not in quotes. -/
def Glyph.is (glyph : Glyph) (c : Char) : Bool :=
  !glyph.quoted && glyph.byte.toNat = c.toNat

/-- How often one of several patterns is to fit. -/
inductive GroupUse where
  | once
  | atMostOnce
  | anyTimes
  | atLeastOnce
  /-- None of the patterns may fit. -/
  | never
  deriving DecidableEq

/-- A step of a pattern. -/
inductive PatternStep where
  | byte (byte : UInt8)
  | anyByte
  | anyText
  | oneOf (inverted : Bool) (ranges : List (UInt8 × UInt8))
  | group (use : GroupUse) (alternatives : List (List PatternStep))

/-- What a pattern may be made of. -/
structure PatternRules where
  /-- A sign before a parenthesis makes a group of patterns. -/
  hasGroups : Bool := false
  /-- A list in brackets that begins with `^` stands for the bytes that are not in it. -/
  hasCarets : Bool := false
  /-- Capital letters fit small ones. -/
  ignoresCase : Bool := false

/-- The members of a list in brackets, up to its end. -/
def readRanges : (fuel : Nat) → (isFirst : Bool) → List Glyph →
    Option (List (UInt8 × UInt8) × List Glyph)
  | 0, _, _ => none
  | _, _, [] => none
  | fuel + 1, isFirst, glyph :: rest =>
    if glyph.is ']' && !isFirst then some ([], rest)
    else
      let className : Option (List UInt8 × List Glyph) :=
        match glyph.is '[', rest with
        | true, colon :: rest =>
          if !colon.is ':' then none
          else
            let name := rest.takeWhile fun g => !g.is ':'
            match rest.drop name.length with
            | _ :: close :: rest =>
              if close.is ']' then some (name.map Glyph.byte, rest) else none
            | _ => none
        | _, _ => none
      match className with
      | some (name, rest) =>
        let members := classMembers (String.ofList (name.map Program.asciiChar))
        (readRanges fuel false rest).map fun (ranges, rest) =>
          (members.map (fun b => (b, b)) ++ ranges, rest)
      | none =>
        match rest with
        | dash :: last :: rest' =>
          if dash.is '-' && !last.is ']' then
            (readRanges fuel false rest').map fun (ranges, rest) =>
              ((glyph.byte, last.byte) :: ranges, rest)
          else
            (readRanges fuel false rest).map fun (ranges, rest) =>
              ((glyph.byte, glyph.byte) :: ranges, rest)
        | rest =>
          (readRanges fuel false rest).map fun (ranges, rest) =>
            ((glyph.byte, glyph.byte) :: ranges, rest)
where
  /-- The bytes of a class. -/
  classMembers (name : String) : List UInt8 :=
    let test : Char → Bool := match name with
      | "alpha" => Char.isAlpha
      | "digit" => Char.isDigit
      | "alnum" => Char.isAlphanum
      | "upper" => Char.isUpper
      | "lower" => Char.isLower
      | "space" => fun c => c = ' ' || ('\t' ≤ c && c ≤ '\r')
      | "blank" => fun c => c = ' ' || c = '\t'
      | "punct" => fun c => '!' ≤ c && c ≤ '~' && !c.isAlphanum
      | "xdigit" => fun c => c.isDigit || ('a' ≤ c && c ≤ 'f') || ('A' ≤ c && c ≤ 'F')
      | "cntrl" => fun c => c < ' ' || c = '\x7f'
      | "graph" => fun c => '!' ≤ c && c ≤ '~'
      | "print" => fun c => ' ' ≤ c && c ≤ '~'
      | _ => fun _ => false
    (List.range 128).filterMap fun n =>
      if test (Char.ofNat n) then some (UInt8.ofNat n) else none

/-- The use of a group after a sign. -/
def groupUse? (sign : Glyph) : Option GroupUse :=
  if sign.is '@' then some .once
  else if sign.is '?' then some .atMostOnce
  else if sign.is '*' then some .anyTimes
  else if sign.is '+' then some .atLeastOnce
  else if sign.is '!' then some .never
  else none

/-- The patterns of a group after its opening parenthesis, and what follows it; none if nothing
closes it.  The pattern under way has its last byte first. -/
def splitGroup : (depth : Nat) → (current : List Glyph) → List Glyph →
    Option (List (List Glyph) × List Glyph)
  | _, _, [] => none
  | depth, current, glyph :: rest =>
    if glyph.is ')' then
      match depth with
      | 0 => some ([current.reverse], rest)
      | depth + 1 => splitGroup depth (glyph :: current) rest
    else if glyph.is '(' then splitGroup (depth + 1) (glyph :: current) rest
    else if glyph.is '|' && depth = 0 then
      (splitGroup 0 [] rest).map fun (others, rest) => (current.reverse :: others, rest)
    else splitGroup depth (glyph :: current) rest

/-- The steps of a pattern. -/
def patternSteps (rules : PatternRules) : (fuel : Nat) → List Glyph → List PatternStep
  | 0, _ => []
  | _, [] => []
  | fuel + 1, glyph :: rest =>
    let group? : Option (GroupUse × List (List Glyph) × List Glyph) :=
      match rules.hasGroups, groupUse? glyph, rest with
      | true, some use, opening :: inside =>
        if opening.is '(' then (splitGroup 0 [] inside).map fun found => (use, found) else none
      | _, _, _ => none
    match group? with
    | some (use, alternatives, rest) =>
      .group use (alternatives.map (patternSteps rules fuel)) :: patternSteps rules fuel rest
    | none =>
      if glyph.is '*' then .anyText :: patternSteps rules fuel rest
      else if glyph.is '?' then .anyByte :: patternSteps rules fuel rest
      else if glyph.is '[' then
        let (inverted, members) : Bool × List Glyph := match rest with
          | mark :: members =>
            if mark.is '!' || (rules.hasCarets && mark.is '^') then (true, members)
            else (false, rest)
          | [] => (false, [])
        match readRanges (members.length + 1) true members with
        | some (ranges, rest) => .oneOf inverted ranges :: patternSteps rules fuel rest
        | none => .byte glyph.byte :: patternSteps rules fuel rest
      else .byte glyph.byte :: patternSteps rules fuel rest

/-! ## Fitting

A set of places in a text has a truth value for every place: before each byte, and at the end. -/

/-- The places in one or both of two sets. -/
def eitherPlace (a b : List Bool) : List Bool := List.zipWith (· || ·) a b

/-- The places after a byte for which a test holds, from the given ones. -/
def afterByte (test : UInt8 → Bool) (text : List UInt8) (places : List Bool) : List Bool :=
  false :: List.zipWith (fun place byte => place && test byte) places text

/-- The given places and all that come after one of them. -/
def andLater : (seen : Bool) → List Bool → List Bool
  | _, [] => []
  | seen, place :: rest => (seen || place) :: andLater (seen || place) rest

/-- The places that a step leads to as often as it is taken. -/
def closePlaces (step : List Bool → List Bool) : (fuel : Nat) → List Bool → List Bool
  | 0, places => places
  | fuel + 1, places => closePlaces step fuel (eitherPlace places (step places))

/-- Each of the given places alone. -/
def singlePlaces (places : List Bool) : List (List Bool) :=
  places.zipIdx.filterMap fun (place, i) =>
    if place then some (places.zipIdx.map fun (_, j) => i = j) else none

mutual

/-- The places of a text that a step leads to from the given ones. -/
def stepPlaces (text : List UInt8) : PatternStep → List Bool → List Bool
  | .byte b, places => afterByte (· = b) text places
  | .anyByte, places => afterByte (fun _ => true) text places
  | .anyText, places => andLater false places
  | .oneOf inverted ranges, places =>
    afterByte (fun c => (ranges.any fun (low, high) => low ≤ c && c ≤ high) != inverted) text
      places
  | .group use alternatives, places =>
    let inside := anyPlaces text alternatives
    match use with
    | .once => inside places
    | .atMostOnce => eitherPlace places (inside places)
    | .anyTimes => closePlaces inside (text.length + 1) places
    | .atLeastOnce => closePlaces inside (text.length + 1) (inside places)
    | .never =>
      (singlePlaces places).foldl (fun found single =>
        eitherPlace found (List.zipWith (fun later taken => later && !taken)
          (andLater false single) (inside single))) (places.map fun _ => false)

/-- The places that steps lead to one after another. -/
def placesAfter (text : List UInt8) : List PatternStep → List Bool → List Bool
  | [], places => places
  | step :: steps, places => placesAfter text steps (stepPlaces text step places)

/-- The places that one of several patterns leads to. -/
def anyPlaces (text : List UInt8) : List (List PatternStep) → List Bool → List Bool
  | [], places => places.map fun _ => false
  | steps :: others, places =>
    eitherPlace (placesAfter text steps places) (anyPlaces text others places)

end

/-- The place at the beginning of a text alone. -/
def firstPlace (text : List UInt8) : List Bool := true :: text.map fun _ => false

/-- The steps fit the whole of a text. -/
def fits (steps : List PatternStep) (text : List UInt8) : Bool :=
  (placesAfter text steps (firstPlace text)).getLast?.getD false

/-- Small letters in the place of capital ones, if the rules say so. -/
def PatternRules.fold (rules : PatternRules) (text : List UInt8) : List UInt8 :=
  if rules.ignoresCase then text.map Program.toLower else text

/-- The steps of a whole pattern. -/
def PatternRules.steps (rules : PatternRules) (pattern : List Glyph) : List PatternStep :=
  let pattern := if rules.ignoresCase then
      pattern.map fun glyph => { glyph with byte := Program.toLower glyph.byte }
    else pattern
  patternSteps rules (pattern.length + 1) pattern

/-- A pattern fits a text. -/
def patternFits (pattern : List Glyph) (text : List UInt8) (rules : PatternRules := {}) : Bool :=
  fits (rules.steps pattern) (rules.fold text)

/-- The text without the part at one end that a pattern fits; of several such parts the shortest or
the longest. -/
def trimPattern (atEnd longest : Bool) (pattern : List Glyph) (text : List UInt8)
    (rules : PatternRules := {}) : List UInt8 :=
  let steps := rules.steps pattern
  let sizes := List.range (text.length + 1)
  let sizes := if longest then sizes.reverse else sizes
  if atEnd then
    match sizes.find? fun size => fits steps (text.drop (text.length - size)) with
    | some size => text.take (text.length - size)
    | none => text
  else
    let places := (placesAfter text steps (firstPlace text)).toArray
    match sizes.find? fun size => places[size]?.getD false with
    | some size => text.drop size
    | none => text

/-- The size of the longest part at the beginning of a text that a pattern fits. -/
def longestFit? (steps : List PatternStep) (text : List UInt8) : Option Nat :=
  let places := placesAfter text steps (firstPlace text)
  (places.zipIdx.filter Prod.fst).getLast?.map Prod.snd

/-! ## File names -/

/-- The word has something that can stand for several texts. -/
def hasPattern (word : List Glyph) (rules : PatternRules := {}) : Bool :=
  (word.any fun glyph => glyph.is '*' || glyph.is '?' || glyph.is '[')
    || (rules.hasGroups && (word.zip (word.drop 1)).any fun (sign, next) =>
      (groupUse? sign).isSome && next.is '(')

/-- The bytes of a word. -/
def bytesOf (word : List Glyph) : List UInt8 := word.map Glyph.byte

/-- The text of a word. -/
def textOf (word : List Glyph) : String := Text.ofBytes (Program.pack (bytesOf word))

/-- The names on a path with the slashes before each; the last one may be empty. -/
def splitPath (fuel : Nat) (word : List Glyph) : List (List Glyph × List Glyph) :=
  match fuel, word with
  | 0, _ | _, [] => []
  | fuel + 1, word =>
    let slashes := word.takeWhile fun g => g.byte = 0x2F
    let rest := word.drop slashes.length
    let name := rest.takeWhile fun g => g.byte ≠ 0x2F
    (slashes, name) :: splitPath fuel (rest.drop name.length)

/-- Which files a pattern stands for. -/
structure NameRules where
  pattern : PatternRules := {}
  /-- A name that begins with a point needs no point in the pattern. -/
  findsHidden : Bool := false
  /-- `.` and `..` are never found. -/
  skipsDots : Bool := false
  /-- `**` stands for directories at any depth. -/
  findsDeep : Bool := false

/-- The names in a directory that a pattern fits. -/
def NameRules.namesIn (rules : NameRules) (directory : String) (name : List Glyph) :
    Routine (List String) := do
  let startsHidden := name.head?.any fun g => g.byte = 0x2E
  let steps := rules.pattern.steps name
  match ← perform (.entries (if directory = "" then "." else directory)) with
  | .error _ => return []
  | .ok entries =>
    let dots := if rules.skipsDots then [] else [".", ".."]
    return (dots ++ entries.map Prod.fst).filter fun entry =>
      let isDots := entry = "." || entry = ".."
      (startsHidden || !entry.startsWith "." || (rules.findsHidden && !isDots))
        && fits steps (rules.pattern.fold (Text.toBytes entry).toList)

/-- How deep directories are looked for. -/
def maxDirectoryDepth : Nat := 1000

/-- The paths of all that is below a directory, each with whether it is a directory. -/
def NameRules.below (rules : NameRules) : (fuel : Nat) → (front : String) →
    Routine (List (String × Bool))
  | 0, _ => return []
  | fuel + 1, front => do
    let star : List Glyph := [⟨0x2A, false⟩]
    let names ← rules.namesIn front star
    let found ← names.mapM fun name => do
      let path := front ++ name
      match ← perform (.stat path false) with
      | .ok info =>
        if info.kind = .directory then
          return (path, true) :: (← rules.below fuel (path ++ "/"))
        else return [(path, false)]
      | .error _ => return []
    return found.flatten

/-- The paths that the rest of a pattern stands for after what has been found. -/
def expandPath (rules : NameRules) :
    List (List Glyph × List Glyph) → (found : String) → Routine (List String)
  | [], found => do
    if found = "" then return []
    match ← perform (.stat found false) with
    | .ok _ => return [found]
    | .error _ => return []
  | (slashes, name) :: rest, found => do
    let front := found ++ textOf slashes
    if !hasPattern name rules.pattern then expandPath rules rest (front ++ textOf name)
    else if rules.findsDeep && name.length = 2 && name.all (Glyph.is · '*') then
      let below ← rules.below maxDirectoryDepth front
      match rest with
      | [] => return (if front = "" then [] else [front]) ++ below.map Prod.fst
      | (_, next) :: others =>
        let fronts := front :: (below.filter Prod.snd).map fun entry => entry.1 ++ "/"
        let found ← fronts.mapM fun front => do
          if hasPattern next rules.pattern then
            let names ← rules.namesIn front next
            let paths ← names.mapM fun name => expandPath rules others (front ++ name)
            return paths.flatten
          else expandPath rules others (front ++ textOf next)
        return found.flatten
    else
      let found ← (← rules.namesIn front name).mapM fun entry =>
        expandPath rules rest (front ++ entry)
      return found.flatten

/-- The paths that a word stands for, in order. -/
def findFileNames (rules : NameRules) (word : List Glyph) : Routine (List String) := do
  let found ← expandPath rules (splitPath (word.length + 1) word) ""
  return found.mergeSort fun a b =>
    Program.bytesLe (Text.toBytes a).toList (Text.toBytes b).toList

/-- The paths that a word stands for, in order; a word that stands for none stands for itself. -/
def expandFileNames (word : List Glyph) : Routine (List String) := do
  if !hasPattern word then return [textOf word]
  let found ← findFileNames {} word
  return if found.isEmpty then [textOf word] else found

end CommandShell.Machine.SystemShell
