set_option autoImplicit false

/-!
# Differences between two sequences

Which elements of two sequences are left when as many as possible are paired with equal ones in the
same order.  The search goes from both ends at once, along the diagonals on which elements are
paired, and divides the sequences where the two searches meet.  Of several answers the one is taken
in which each run of unpaired elements stands as late as it can, but across from a run of the other
sequence if it has passed one.
-/

namespace CommandShell.Text.Difference

/-- Two sequences; equal elements are equal numbers. -/
structure Pair where
  first : Array Nat
  second : Array Nat

/-- A part of both sequences. -/
structure Region where
  firstFrom : Int
  firstTo : Int
  secondFrom : Int
  secondTo : Int

/-- How far a search has come on each diagonal. -/
structure Frontier where
  /-- The place in the first sequence; the diagonals are counted from `-offset`. -/
  reached : Array Int
  offset : Int
  /-- The lowest and the highest diagonal that is being looked at. -/
  least : Int
  greatest : Int

namespace Frontier

/-- How far the search has come on a diagonal. -/
def placeOn (frontier : Frontier) (diagonal : Int) : Int :=
  frontier.reached.getD (diagonal + frontier.offset).toNat 0

/-- The search has come so far on a diagonal. -/
def put (frontier : Frontier) (diagonal place : Int) : Frontier :=
  { frontier with
    reached := frontier.reached.setIfInBounds (diagonal + frontier.offset).toNat place }

/-- A search that starts on one diagonal. -/
def start (size : Nat) (offset diagonal place : Int) : Frontier :=
  { reached := Array.replicate size 0, offset, least := diagonal, greatest := diagonal : Frontier }
    |>.put diagonal place

/-- The search looks at one more diagonal on each side, or at one less where there is no more;
`outside` stands for a diagonal that it has not come to. -/
def widen (frontier : Frontier) (lowest highest outside : Int) : Frontier :=
  let frontier :=
    if frontier.least > lowest then
      { frontier.put (frontier.least - 2) outside with least := frontier.least - 1 }
    else { frontier with least := frontier.least + 1 }
  if frontier.greatest < highest then
    { frontier.put (frontier.greatest + 2) outside with greatest := frontier.greatest + 1 }
  else { frontier with greatest := frontier.greatest - 1 }

/-- A diagonal that is being looked at. -/
def covers (frontier : Frontier) (diagonal : Int) : Bool :=
  frontier.least ≤ diagonal && diagonal ≤ frontier.greatest

end Frontier

namespace Pair

/-- The elements at two places are equal. -/
def agrees (pair : Pair) (x y : Int) : Bool := pair.first[x.toNat]? = pair.second[y.toNat]?

/-- The end of the equal elements that begin at two places. -/
def slideForward (pair : Pair) (region : Region) : (fuel : Nat) → (x y : Int) → Int
  | 0, x, _ => x
  | fuel + 1, x, y =>
    if x < region.firstTo && y < region.secondTo && pair.agrees x y then
      pair.slideForward region fuel (x + 1) (y + 1)
    else x

/-- The beginning of the equal elements that end before two places. -/
def slideBack (pair : Pair) (region : Region) : (fuel : Nat) → (x y : Int) → Int
  | 0, x, _ => x
  | fuel + 1, x, y =>
    if region.firstFrom < x && region.secondFrom < y && pair.agrees (x - 1) (y - 1) then
      pair.slideBack region fuel (x - 1) (y - 1)
    else x

/-- How many elements there are. -/
def size (pair : Pair) : Nat := pair.first.size + pair.second.size

/-- The search from the front goes on along a diagonal and every other one below it.  If it meets
the other search there, the result has the place. -/
def searchForward (pair : Pair) (region : Region) (other : Frontier) (mayMeet : Bool) :
    (fuel : Nat) → (diagonal : Int) → Frontier → Frontier × Option (Int × Int)
  | 0, _, frontier => (frontier, none)
  | fuel + 1, diagonal, frontier =>
    if diagonal < frontier.least then (frontier, none)
    else
      let low := frontier.placeOn (diagonal - 1)
      let high := frontier.placeOn (diagonal + 1)
      let x := if low < high then high else low + 1
      let x := pair.slideForward region pair.size x (x - diagonal)
      let frontier := frontier.put diagonal x
      if mayMeet && other.covers diagonal && other.placeOn diagonal ≤ x then
        (frontier, some (x, x - diagonal))
      else pair.searchForward region other mayMeet fuel (diagonal - 2) frontier

/-- The search from the end goes on along a diagonal and every other one below it. -/
def searchBack (pair : Pair) (region : Region) (other : Frontier) (mayMeet : Bool) :
    (fuel : Nat) → (diagonal : Int) → Frontier → Frontier × Option (Int × Int)
  | 0, _, frontier => (frontier, none)
  | fuel + 1, diagonal, frontier =>
    if diagonal < frontier.least then (frontier, none)
    else
      let low := frontier.placeOn (diagonal - 1)
      let high := frontier.placeOn (diagonal + 1)
      let x := if low < high then low else high - 1
      let x := pair.slideBack region pair.size x (x - diagonal)
      let frontier := frontier.put diagonal x
      if mayMeet && other.covers diagonal && x ≤ other.placeOn diagonal then
        (frontier, some (x, x - diagonal))
      else pair.searchBack region other mayMeet fuel (diagonal - 2) frontier

/-- A place where the searches from the two ends of a region meet. -/
def meet (pair : Pair) (region : Region) : (fuel : Nat) → (front back : Frontier) → Int × Int
  | 0, _, _ => (region.firstTo, region.secondFrom)
  | fuel + 1, front, back =>
    let lowest := region.firstFrom - region.secondTo
    let highest := region.firstTo - region.secondFrom
    let isOdd := (region.firstFrom - region.secondFrom - region.firstTo + region.secondTo) % 2 ≠ 0
    let front := front.widen lowest highest (-1)
    match pair.searchForward region back isOdd (pair.size + 2) front.greatest front with
    | (_, some place) => place
    | (front, none) =>
      let back := back.widen lowest highest (pair.size + 1)
      match pair.searchBack region front (!isOdd) (pair.size + 2) back.greatest back with
      | (_, some place) => place
      | (back, none) => pair.meet region fuel front back

/-- The whole numbers from one on up to another one. -/
def numbers (start stop : Int) : List Nat :=
  (List.range (stop - start).toNat).map fun i => start.toNat + i

/-- The places of a region that are not paired, in each of the sequences. -/
def unpaired (pair : Pair) : (fuel : Nat) → Region → List Nat × List Nat
  | 0, _ => ([], [])
  | fuel + 1, region =>
    let { firstFrom, firstTo, secondFrom, secondTo } := region
    let start := pair.slideForward region pair.size firstFrom secondFrom
    let region :=
      { region with firstFrom := start, secondFrom := secondFrom + (start - firstFrom) }
    let stop := pair.slideBack region pair.size firstTo secondTo
    let region := { region with firstTo := stop, secondTo := secondTo - (firstTo - stop) }
    let { firstFrom, firstTo, secondFrom, secondTo } := region
    if firstFrom = firstTo then ([], numbers secondFrom secondTo)
    else if secondFrom = secondTo then (numbers firstFrom firstTo, [])
    else
      let size := pair.size + 5
      let offset : Int := pair.second.size + 2
      let front := Frontier.start size offset (firstFrom - secondFrom) firstFrom
      let back := Frontier.start size offset (firstTo - secondTo) firstTo
      let (x, y) := pair.meet region (pair.size + 1) front back
      let (first, second) :=
        pair.unpaired fuel { region with firstTo := x, secondTo := y }
      let (moreFirst, moreSecond) :=
        pair.unpaired fuel { region with firstFrom := x, secondFrom := y }
      (first ++ moreFirst, second ++ moreSecond)

end Pair

/-! ## Runs of unpaired elements -/

/-- Which elements of a sequence are unpaired.  They are counted from 1, and there is an element
before the first one and one after the last one that are not. -/
abbrev Marks := Array Bool

/-- No element is unpaired. -/
def Marks.none (count : Nat) : Marks := Array.replicate (count + 2) false

/-- An element is unpaired. -/
def Marks.has (marks : Marks) (i : Nat) : Bool := marks.getD i false

/-- The first element from one on that is paired. -/
def Marks.after (marks : Marks) : (fuel : Nat) → Nat → Nat
  | 0, i => i
  | fuel + 1, i => if marks.has i then Marks.after marks fuel (i + 1) else i

/-- The last element up to one that is paired. -/
def Marks.before (marks : Marks) : (fuel : Nat) → Nat → Nat
  | 0, i => i
  | fuel + 1, i => if marks.has i then Marks.before marks fuel (i - 1) else i

/-- A run of unpaired elements that is being moved. -/
structure Run where
  marks : Marks
  start : Nat
  /-- The element after the run. -/
  stop : Nat
  /-- The place across from it in the other sequence. -/
  across : Nat
  /-- Where the run would end across from a run of the other sequence. -/
  matching : Option Nat := none

namespace Run

variable (classes : Array Nat) (other : Marks)

/-- Elements are equal. -/
def agree (i j : Nat) : Bool := classes[i - 1]? = classes[j - 1]?

/-- The run one element earlier. -/
def stepBack (run : Run) : Run :=
  let marks := (run.marks.setIfInBounds (run.start - 1) true).setIfInBounds (run.stop - 1) false
  { run with
    marks, stop := run.stop - 1
    start := Marks.before marks marks.size (run.start - 2) + 1
    across := Marks.before other other.size (run.across - 1) }

/-- Moves a run back as far as it goes. -/
def moveBack : (fuel : Nat) → Run → Run
  | 0, run => run
  | fuel + 1, run =>
    if run.start > 1 && agree classes (run.start - 1) (run.stop - 1) then
      moveBack fuel (run.stepBack other)
    else run

/-- Moves a run forward as far as it goes. -/
def moveForward : (fuel : Nat) → Run → Run
  | 0, run => run
  | fuel + 1, run =>
    if run.stop ≤ classes.size && agree classes run.start run.stop then
      let marks := (run.marks.setIfInBounds run.start false).setIfInBounds run.stop true
      let stop := Marks.after marks marks.size (run.stop + 1)
      let across := Marks.after other other.size (run.across + 1)
      moveForward fuel
        { marks, start := run.start + 1, stop, across
          matching := if across > run.across + 1 then some stop else run.matching }
    else run

/-- Moves a run until it does not grow any more. -/
def grow : (fuel : Nat) → Run → Run
  | 0, run => run
  | fuel + 1, run =>
    let length := run.stop - run.start
    let run := moveBack classes other classes.size run
    let run :=
      { run with matching := if other.has (run.across - 1) then some run.stop else none }
    let run := moveForward classes other classes.size run
    if run.stop - run.start = length then run else grow fuel run

/-- Moves a run back to where it is across from a run of the other sequence. -/
def settle : (fuel : Nat) → Run → Run
  | 0, run => run
  | fuel + 1, run =>
    if run.matching.any (· < run.stop) then
      let marks :=
        (run.marks.setIfInBounds (run.start - 1) true).setIfInBounds (run.stop - 1) false
      settle fuel
        { run with
          marks, start := run.start - 1, stop := run.stop - 1
          across := Marks.before other other.size (run.across - 1) }
    else run

end Run

/-- Moves all runs from an element on; `across` is the element of the other sequence. -/
def moveRuns (classes : Array Nat) (other : Marks) :
    (fuel : Nat) → (i across : Nat) → Marks → Marks
  | 0, _, _, marks => marks
  | fuel + 1, i, across, marks =>
    if i > classes.size then marks
    else if !marks.has i then
      moveRuns classes other fuel (i + 1) (Marks.after other other.size across + 1) marks
    else
      let run : Run :=
        { marks, start := i, stop := Marks.after marks marks.size i
          across := Marks.after other other.size across }
      let run := Run.settle other classes.size (Run.grow classes other classes.size run)
      moveRuns classes other fuel run.stop run.across run.marks

/-! ## All at once -/

/-- The places of the elements that the other sequence has as well. -/
def shared (elements others : Array Nat) : Array Nat :=
  (Array.range elements.size).filter fun i => elements[i]?.any others.contains

/-- Which elements of two sequences are unpaired. -/
def unpaired (first second : Array Nat) : Marks × Marks :=
  let firstPlaces := shared first second
  let secondPlaces := shared second first
  let pair : Pair :=
    ⟨firstPlaces.map fun i => first.getD i 0, secondPlaces.map fun i => second.getD i 0⟩
  let (left, right) := pair.unpaired (pair.size + 1) ⟨0, pair.first.size, 0, pair.second.size⟩
  let paired (places : Array Nat) (alone : List Nat) : List Nat :=
    (List.range places.size).filterMap fun k =>
      if alone.contains k then none else places[k]?
  let marks (elements places : Array Nat) (alone : List Nat) : Marks :=
    (paired places alone).foldl (fun (marks : Marks) i => marks.setIfInBounds (i + 1) false)
      ((Array.range (elements.size + 2)).map fun i => 1 ≤ i && i ≤ elements.size)
  let firstMarks := marks first firstPlaces left
  let secondMarks := marks second secondPlaces right
  let firstMarks := moveRuns first secondMarks (first.size + 1) 1 1 firstMarks
  let secondMarks := moveRuns second firstMarks (second.size + 1) 1 1 secondMarks
  (firstMarks, secondMarks)

/-- What stands between paired elements: some elements of each sequence, counted from 0. -/
structure Change where
  first : Nat
  firstCount : Nat
  second : Nat
  secondCount : Nat
  deriving DecidableEq

/-- The changes from two elements on, counted from 1. -/
def changesFrom (firstMarks secondMarks : Marks) : (fuel : Nat) → (i j : Nat) → List Change
  | 0, _, _ => []
  | fuel + 1, i, j =>
    let firstStop := Marks.after firstMarks firstMarks.size i
    let secondStop := Marks.after secondMarks secondMarks.size j
    let rest := changesFrom firstMarks secondMarks fuel (firstStop + 1) (secondStop + 1)
    if firstStop = i && secondStop = j then rest
    else ⟨i - 1, firstStop - i, j - 1, secondStop - j⟩ :: rest

/-- The changes that make the second sequence of the first one. -/
def changes (first second : Array Nat) : List Change :=
  let (firstMarks, secondMarks) := unpaired first second
  changesFrom firstMarks secondMarks (first.size + second.size + 2) 1 1

example : changes #[1, 2, 3] #[1, 4, 3, 3] = [⟨1, 1, 1, 2⟩] := by cbv

end CommandShell.Text.Difference
