import HatTree.Template.Fill

/-!
# The time of a log entry

A time is a number of seconds since the start of 1970, shown as a date and a time of day of the
Gregorian calendar in universal time. A pattern says what is shown: each percent sign is followed by
flags and a letter; what has no meaning stays as it is.

## Main definitions

* `Moment`: a date and a time of day
* `Moment.ofSeconds`: the moment a number of seconds after the start of 1970
* `Moment.directive`: what a letter of a pattern stands for
* `Moment.stamp`: a moment shown by a pattern
* `Moment.timestamp`: a moment with milliseconds
-/

namespace HatTree.Log

/-- **A date and a time of day.** -/
structure Moment where
  /-- Seconds since the start of 1970. -/
  seconds : Int
  /-- The year. -/
  year : Int
  /-- The month, from one. -/
  month : Nat
  /-- The day of the month, from one. -/
  day : Nat
  /-- The day of the year, from zero. -/
  yearDay : Nat
  /-- The day of the week, from zero for Sunday. -/
  weekday : Nat
  /-- The hour. -/
  hour : Nat
  /-- The minute. -/
  minute : Nat
  /-- The second. -/
  second : Nat
  deriving DecidableEq, Repr

namespace Moment

/-- Whether a year has 366 days. -/
def isLeap (year : Int) : Bool := year % 4 = 0 && (year % 100 ≠ 0 || year % 400 = 0)

/-- The lengths of the months of a year. -/
def monthLengths (year : Int) : List Nat :=
  [31, if isLeap year then 29 else 28, 31, 30, 31, 30, 31, 31, 30, 31, 30, 31]

/-- The number of days of a year. -/
def yearLength (year : Int) : Nat := if isLeap year then 366 else 365

/-- The number of days from the start of year zero to the start of a year. -/
def daysBefore (year : Int) : Int :=
  365 * year + (year + 3) / 4 - (year + 99) / 100 + (year + 399) / 400

/-- The year in which a day lies, and the day of that year, counted from the start of year zero. -/
def yearOf (days : Int) : Int × Nat :=
  let guess := days * 400 / 146097
  let year := if days < daysBefore guess then guess - 1
    else if daysBefore (guess + 1) ≤ days then guess + 1 else guess
  (year, (days - daysBefore year).toNat)

/-- The month in which a day lies and the day of that month, both from one. -/
def monthOf (month day : Nat) : List Nat → Nat × Nat
  | [] => (month, day + 1)
  | length :: rest =>
    if day < length then (month, day + 1) else monthOf (month + 1) (day - length) rest

/-- **The moment a number of seconds after the start of 1970.** -/
def ofSeconds (seconds : Int) : Moment :=
  let days := seconds / 86400
  let rest := (seconds % 86400).toNat
  let (year, yearDay) := yearOf (days + daysBefore 1970)
  let (month, day) := monthOf 1 yearDay (monthLengths year)
  { seconds, year, month, day, yearDay
    weekday := ((days + 4) % 7).toNat
    hour := rest / 3600, minute := rest / 60 % 60, second := rest % 60 }

/-- The names of the days of the week. -/
def dayNames : List String :=
  ["Sunday", "Monday", "Tuesday", "Wednesday", "Thursday", "Friday", "Saturday"]

/-- The names of the months. -/
def monthNames : List String :=
  ["January", "February", "March", "April", "May", "June", "July", "August", "September", "October",
    "November", "December"]

/-- The hour on a clock of twelve hours. -/
def clockHour (m : Moment) : Nat := if m.hour % 12 = 0 then 12 else m.hour % 12

/-- The year and the week by which weeks are counted from the one with the year's first Thursday. -/
def weekDate (m : Moment) : Int × Nat :=
  let monday := (m.weekday + 6) % 7
  let thursday : Int := (m.yearDay : Int) + 3 - monday
  if thursday < 0 then
    (m.year - 1, ((thursday + yearLength (m.year - 1)) / 7).toNat + 1)
  else if thursday < yearLength m.year then (m.year, (thursday / 7).toNat + 1)
  else (m.year + 1, 1)

/-- The week of the year when weeks start on a given day and the first one is whole. -/
def weekFrom (m : Moment) (start : Nat) : Nat := (m.yearDay + 7 - (m.weekday + 7 - start) % 7) / 7

/-- **What is shown of a moment**: a number with a usual width and filling, or a text. -/
inductive Field where
  /-- A number. -/
  | number (n : Int) (width : Nat) (filling : Char)
  /-- A text. -/
  | text (s : String)

/-- A number with two digits at least. -/
def two (n : Nat) : Field := .number n 2 '0'

/-- A field as flags ask for it. -/
def Field.write (flags : List Char) : Field → List Char
  | number n width filling =>
    let filling := match (flags.filter fun f => ['-', '_', '0'].contains f).getLast? with
      | some '-' => none
      | some '_' => some ' '
      | some '0' => some '0'
      | _ => some filling
    let digits := (Numeral.decimal n).toList
    match filling with
    | none => digits
    | some c => digits.leftpad width c
  | text s => if flags.contains '^' ∨ flags.contains '#' then s.toUpper.toList else s.toList

/-- Fields one after the other, with texts between them. -/
def written (fields : List Field) : Field := .text (String.ofList (fields.flatMap (Field.write [])))

/-- Three fields divided by a sign. -/
def triple (mark : String) (a b c : Field) : Field := written [a, .text mark, b, .text mark, c]

/-- The time of day. -/
def timeOfDay (m : Moment) : Field := triple ":" (two m.hour) (two m.minute) (two m.second)

/-- A year as it is. -/
def yearField (year : Int) : Field := .number year 1 '0'

/-- The last two digits of a year. -/
def shortYear (year : Int) : Field := two (year % 100).natAbs

/-- The half of the day. -/
def half (m : Moment) : String := if m.hour < 12 then "AM" else "PM"

/-- A name cut to three letters. -/
def short (s : String) : String := String.ofList (s.toList.take 3)

/-- The name of the day of the week. -/
def dayName (m : Moment) : String := dayNames[m.weekday]?.getD ""

/-- The name of the month. -/
def monthName (m : Moment) : String := monthNames[m.month - 1]?.getD ""

/-- **What a letter of a pattern stands for.** -/
def directive (m : Moment) : Char → Option Field
  | '%' => some (.text "%")
  | 'n' => some (.text "\n")
  | 't' => some (.text "\t")
  | 'a' => some (.text (short m.dayName))
  | 'A' => some (.text m.dayName)
  | 'b' | 'h' => some (.text (short m.monthName))
  | 'B' => some (.text m.monthName)
  | 'C' => some (.number (m.year / 100) 1 '0')
  | 'd' => some (two m.day)
  | 'e' => some (.number m.day 2 ' ')
  | 'g' => some (shortYear m.weekDate.1)
  | 'G' => some (yearField m.weekDate.1)
  | 'H' => some (two m.hour)
  | 'I' => some (two m.clockHour)
  | 'j' => some (.number (m.yearDay + 1) 3 '0')
  | 'k' => some (.number m.hour 2 ' ')
  | 'l' => some (.number m.clockHour 2 ' ')
  | 'm' => some (two m.month)
  | 'M' => some (two m.minute)
  | 'p' => some (.text m.half)
  | 'P' => some (.text m.half.toLower)
  | 's' => some (.number m.seconds 1 '0')
  | 'S' => some (two m.second)
  | 'u' => some (.number (if m.weekday = 0 then 7 else m.weekday) 1 '0')
  | 'U' => some (two (m.weekFrom 0))
  | 'V' => some (two m.weekDate.2)
  | 'w' => some (.number m.weekday 1 '0')
  | 'W' => some (two (m.weekFrom 1))
  | 'y' => some (shortYear m.year)
  | 'Y' => some (yearField m.year)
  | 'z' => some (.text "+0000")
  | 'Z' => some (.text "UTC")
  | 'c' => some (written [.text (short m.dayName), .text " ", .text (short m.monthName), .text " ",
      .number m.day 2 ' ', .text " ", m.timeOfDay, .text " ", yearField m.year])
  | 'D' | 'x' => some (triple "/" (two m.month) (two m.day) (shortYear m.year))
  | 'F' => some (triple "-" (yearField m.year) (two m.month) (two m.day))
  | 'r' => some (written [triple ":" (two m.clockHour) (two m.minute) (two m.second), .text " ",
      .text m.half])
  | 'R' => some (written [two m.hour, .text ":", two m.minute])
  | 'T' | 'X' => some m.timeOfDay
  | _ => none

/-- Whether a character is a flag of a directive. -/
def isFlag (c : Char) : Bool := ['-', '_', '0', '^', '#'].contains c

/-- A moment shown by the rest of a pattern; `flags` are those of an open directive. -/
def stampFrom (m : Moment) : Option (List Char) → List Char → List Char
  | none, [] => []
  | none, '%' :: cs => m.stampFrom (some []) cs
  | none, c :: cs => c :: m.stampFrom none cs
  | some flags, [] => '%' :: flags
  | some flags, c :: cs =>
    if isFlag c then m.stampFrom (some (flags ++ [c])) cs
    else match m.directive c with
      | some field => field.write flags ++ m.stampFrom none cs
      | none => '%' :: flags ++ c :: m.stampFrom none cs

/-- **A moment shown by a pattern.** -/
def stamp (m : Moment) (pattern : String) : String :=
  String.ofList (m.stampFrom none pattern.toList)

/-- The pattern of the date and the time of day. -/
def usualPattern : String := "%Y-%m-%d %H:%M:%S"

/-- **A moment with milliseconds.** -/
def timestamp (m : Moment) (milliseconds : Value) : Except Template.Fault String :=
  Template.fill "%s,%03d" (.tuple [.text (m.stamp usualPattern), milliseconds])

end Moment

end HatTree.Log
