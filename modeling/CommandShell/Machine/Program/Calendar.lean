import CommandShell.Machine.Program.Basic
set_option autoImplicit false

/-!
# The calendar

What the date and the time of day are so many seconds after the beginning of the year 1970, and how
they are written as a format says.  All times are those of the zone of reference.
-/

namespace CommandShell.Machine.Program.Calendar

/-- How many seconds a day has. -/
def secondsPerDay : Int := 86400

/-- A moment as the calendar has it. -/
structure Moment where
  /-- The seconds after the beginning of the year 1970. -/
  seconds : Int
  year : Int
  /-- From 1 to 12. -/
  month : Nat
  day : Nat
  /-- The days of the year before this one. -/
  yearDay : Nat
  /-- The days since Sunday. -/
  weekDay : Nat
  hour : Nat
  minute : Nat
  second : Nat

/-! ## Dates -/

/-- The year, month and day of a day, counted from the first one of 1970.  Years begin in March
here, so that the day that a year may have or not is its last one. -/
def dateOf (days : Int) : Int × Nat × Nat :=
  let shifted := days + 719468
  let era := Int.fdiv shifted 146097
  let dayOfEra := (Int.fmod shifted 146097).toNat
  let yearOfEra := (dayOfEra - dayOfEra / 1460 + dayOfEra / 36524 - dayOfEra / 146096) / 365
  let dayOfYear := dayOfEra - (365 * yearOfEra + yearOfEra / 4 - yearOfEra / 100)
  let shiftedMonth := (5 * dayOfYear + 2) / 153
  let day := dayOfYear - (153 * shiftedMonth + 2) / 5 + 1
  let month := if shiftedMonth < 10 then shiftedMonth + 3 else shiftedMonth - 9
  let year := era * 400 + yearOfEra + (if month ≤ 2 then 1 else 0)
  (year, month, day)

/-- The days from the first one of 1970 to a date. -/
def daysTo (year : Int) (month day : Nat) : Int :=
  let year := if month ≤ 2 then year - 1 else year
  let era := Int.fdiv year 400
  let yearOfEra := (Int.fmod year 400).toNat
  let shiftedMonth := if month > 2 then month - 3 else month + 9
  let dayOfYear := (153 * shiftedMonth + 2) / 5 + day - 1
  let dayOfEra := yearOfEra * 365 + yearOfEra / 4 - yearOfEra / 100 + dayOfYear
  era * 146097 + dayOfEra - 719468

/-- The year has a day more than others. -/
def isLeap (year : Int) : Bool :=
  Int.fmod year 4 = 0 && (Int.fmod year 100 ≠ 0 || Int.fmod year 400 = 0)

/-- The moment so many seconds after the beginning of the year 1970. -/
def Moment.ofSeconds (seconds : Int) : Moment :=
  let days := Int.fdiv seconds secondsPerDay
  let rest := (Int.fmod seconds secondsPerDay).toNat
  let (year, month, day) := dateOf days
  { seconds, year, month, day
    yearDay := (days - daysTo year 1 1).toNat
    weekDay := (Int.fmod (days + 4) 7).toNat
    hour := rest / 3600, minute := rest / 60 % 60, second := rest % 60 }

/-- The year and the number of the week, where weeks begin on Monday and belong to the year in which
most of their days are. -/
def Moment.week (moment : Moment) : Int × Nat :=
  -- The Thursday of the week decides.
  let weekDay := (moment.weekDay + 6) % 7
  let thursday := Int.fdiv moment.seconds secondsPerDay + 3 - weekDay
  let (year, _, _) := dateOf thursday
  (year, (thursday - daysTo year 1 1).toNat / 7 + 1)

/-! ## Formats -/

/-- The names of the days of a week. -/
def dayNames : List String :=
  ["Sunday", "Monday", "Tuesday", "Wednesday", "Thursday", "Friday", "Saturday"]

/-- The names of the months. -/
def monthNames : List String :=
  ["January", "February", "March", "April", "May", "June", "July", "August", "September",
    "October", "November", "December"]

/-- What a directive writes. -/
inductive Field where
  /-- A number in so many places, with something in front. -/
  | number (value : Int) (width : Nat) (filler : Char)
  | text (text : String)
  /-- What another format writes. -/
  | format (format : String)

/-- How a directive is to be written. -/
structure FieldStyle where
  filler : Option Char := none
  /-- Nothing fills the field. -/
  isBare : Bool := false
  isUpper : Bool := false
  isOpposite : Bool := false
  width : Option Nat := none

/-- What a letter stands for. -/
def Moment.field? (moment : Moment) (letter : Char) : Option Field :=
  let two (n : Nat) : Option Field := some (.number n 2 '0')
  let hour12 := if moment.hour % 12 = 0 then 12 else moment.hour % 12
  let name (names : List String) (i : Nat) : String := names[i]?.getD ""
  let short (text : String) : Option Field := some (.text (text.take 3).toString)
  match letter with
  | 'a' => short (name dayNames moment.weekDay)
  | 'A' => some (.text (name dayNames moment.weekDay))
  | 'b' | 'h' => short (name monthNames (moment.month - 1))
  | 'B' => some (.text (name monthNames (moment.month - 1)))
  | 'c' => some (.format "%a %b %e %H:%M:%S %Y")
  | 'C' => some (.number (Int.fdiv moment.year 100) 2 '0')
  | 'd' => two moment.day
  | 'D' | 'x' => some (.format "%m/%d/%y")
  | 'e' => some (.number moment.day 2 ' ')
  | 'F' => some (.format "%Y-%m-%d")
  | 'g' => some (.number (Int.fmod moment.week.1 100) 2 '0')
  | 'G' => some (.number moment.week.1 1 '0')
  | 'H' => two moment.hour
  | 'I' => two hour12
  | 'j' => some (.number (moment.yearDay + 1 : Nat) 3 '0')
  | 'k' => some (.number moment.hour 2 ' ')
  | 'l' => some (.number hour12 2 ' ')
  | 'm' => two moment.month
  | 'M' => two moment.minute
  | 'n' => some (.text "\n")
  | 'p' => some (.text (if moment.hour < 12 then "AM" else "PM"))
  | 'P' => some (.text (if moment.hour < 12 then "am" else "pm"))
  | 'q' => some (.number ((moment.month - 1) / 3 + 1 : Nat) 1 '0')
  | 'r' => some (.format "%I:%M:%S %p")
  | 'R' => some (.format "%H:%M")
  | 's' => some (.number moment.seconds 1 '0')
  | 'S' => two moment.second
  | 't' => some (.text "\t")
  | 'T' | 'X' => some (.format "%H:%M:%S")
  | 'u' => some (.number (if moment.weekDay = 0 then 7 else moment.weekDay : Nat) 1 '0')
  | 'U' => two ((moment.yearDay + 7 - moment.weekDay) / 7)
  | 'V' => two moment.week.2
  | 'w' => some (.number moment.weekDay 1 '0')
  | 'W' => two ((moment.yearDay + 7 - (moment.weekDay + 6) % 7) / 7)
  | 'y' => some (.number (Int.fmod moment.year 100) 2 '0')
  | 'Y' => some (.number moment.year 1 '0')
  | 'z' => some (.text "+0000")
  | 'Z' => some (.text "UTC")
  | '%' => some (.text "%")
  | _ => none

/-- A text with something in front of it up to a width. -/
def filled (width : Nat) (filler : Char) (text : String) : String :=
  String.ofList (List.replicate (width - text.length) filler) ++ text

/-- A text as a directive with a letter is to show it. -/
def FieldStyle.showText (style : FieldStyle) (letter : Char) (text : String) : String :=
  let text :=
    if style.isOpposite && (letter = 'p' || letter = 'Z') then text.toLower
    else if style.isUpper || (style.isOpposite && "aAbBh".contains letter) then text.toUpper
    else text
  filled (style.width.getD 0) (style.filler.getD ' ') text

/-- A number as a directive is to show it. -/
def FieldStyle.showNumber (style : FieldStyle) (value : Int) (width : Nat) (filler : Char) :
    String :=
  let digits := toString value.natAbs
  let sign := if value < 0 then "-" else ""
  let width := style.width.getD (if style.isBare then 0 else width)
  match style.filler.getD filler with
  | '0' => sign ++ filled (width - sign.length) '0' digits
  | filler => filled width filler (sign ++ digits)

/-- The flags at the front of a directive. -/
def readFlags (style : FieldStyle) : List Char → FieldStyle × List Char
  | '_' :: rest => readFlags { style with filler := some ' ' } rest
  | '-' :: rest => readFlags { style with isBare := true } rest
  | '0' :: rest => readFlags { style with filler := some '0' } rest
  | '^' :: rest => readFlags { style with isUpper := true } rest
  | '#' :: rest => readFlags { style with isOpposite := true } rest
  | rest => (style, rest)

/-- The style and the letter of a directive, and what follows it. -/
def readDirective (cs : List Char) : FieldStyle × List Char :=
  let (style, rest) := readFlags {} cs
  let digits := rest.takeWhile Char.isDigit
  let rest := rest.drop digits.length
  let width := if digits.isEmpty then none else Program.natural? (String.ofList digits)
  let rest := match rest with
    | 'E' :: rest | 'O' :: rest => rest
    | rest => rest
  ({ style with width }, rest)

/-- A moment as a format says; a format may stand for others to some depth. -/
def Moment.write (moment : Moment) (further : Char → Option Field) :
    (fuel depth : Nat) → List Char → String
  | 0, _, _ | _, _, [] => ""
  | fuel + 1, depth, '%' :: cs =>
    let (style, rest) := readDirective cs
    match rest with
    | [] => "%" ++ String.ofList cs
    | letter :: rest =>
      let shown := match (further letter).or (moment.field? letter) with
        | some (.number value width filler) => style.showNumber value width filler
        | some (.text text) => style.showText letter text
        | some (.format format) =>
          match depth with
          | 0 => ""
          | depth + 1 => style.showText letter (moment.write further fuel depth format.toList)
        | none => "%" ++ String.ofList (cs.take (cs.length - rest.length))
      shown ++ moment.write further fuel depth rest
  | fuel + 1, depth, c :: cs => c.toString ++ moment.write further fuel depth cs

/-- A moment as a format says. -/
def Moment.format (moment : Moment) (format : String)
    (further : Char → Option Field := fun _ => none) : String :=
  moment.write further (format.length + 64) 2 format.toList

end CommandShell.Machine.Program.Calendar
