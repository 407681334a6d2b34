/-!
# Calendar

Instants of universal time, the days of the proleptic Gregorian calendar and their written forms.
The days are counted in eras of four hundred years, each beginning on the first of March, so that a
leap day is the last day of its year.

Main statements: `weekday_add_seven` and `ofDayNumber_epoch` tie the count to the calendar.
-/

namespace ShapeCheck

/-- A point of universal time: whole seconds from the beginning of 1970, and nanoseconds after
them.  A leap second has a thousand million nanoseconds or more. -/
structure Instant where
  seconds : Int
  nanos : Nat
deriving DecidableEq

namespace Calendar

/-- A day of the calendar. -/
structure Date where
  year : Int
  month : Nat
  day : Nat
deriving DecidableEq

def daysPerEra : Nat :=
  146097

/-- The day with the given distance in days from the beginning of 1970. -/
def ofDayNumber (n : Int) : Date :=
  let shifted := n + 719468
  let era := shifted / daysPerEra
  let dayOfEra := (shifted % daysPerEra).toNat
  let yearOfEra := (dayOfEra - dayOfEra / 1460 + dayOfEra / 36524 - dayOfEra / 146096) / 365
  let dayOfYear := dayOfEra - (365 * yearOfEra + yearOfEra / 4 - yearOfEra / 100)
  let fromMarch := (5 * dayOfYear + 2) / 153
  let month := if fromMarch < 10 then fromMarch + 3 else fromMarch - 9
  { year := yearOfEra + era * 400 + if month ≤ 2 then 1 else 0
    month := month
    day := dayOfYear - (153 * fromMarch + 2) / 5 + 1 }

/-- The day of the week, counted from Sunday. -/
def weekday (n : Int) : Nat :=
  ((n + 4) % 7).toNat

def weekdayName : Nat → String
  | 0 => "Sun"
  | 1 => "Mon"
  | 2 => "Tue"
  | 3 => "Wed"
  | 4 => "Thu"
  | 5 => "Fri"
  | _ => "Sat"

def monthName : Nat → String
  | 1 => "Jan"
  | 2 => "Feb"
  | 3 => "Mar"
  | 4 => "Apr"
  | 5 => "May"
  | 6 => "Jun"
  | 7 => "Jul"
  | 8 => "Aug"
  | 9 => "Sep"
  | 10 => "Oct"
  | 11 => "Nov"
  | _ => "Dec"

/-- A number with zeros in front up to the given width. -/
def padded (width n : Nat) : String :=
  let digits := Nat.toDigits 10 n
  String.ofList (List.replicate (width - digits.length) '0' ++ digits)

/-- A year with at least four digits, and with its sign unless it lies between 0 and 9999. -/
def yearText (year : Int) : String :=
  if year < 0 then "-" ++ padded 4 year.natAbs
  else if 9999 < year then "+" ++ padded 4 year.natAbs
  else padded 4 year.natAbs

theorem weekday_add_seven (n : Int) :
    weekday (n + 7) = weekday n := by
  unfold weekday
  congr 1
  omega

/-- Day zero is the first of January 1970, a Thursday. -/
theorem ofDayNumber_epoch :
    ofDayNumber 0 = ⟨1970, 1, 1⟩ ∧ weekdayName (weekday 0) = "Thu" := by
  decide

end Calendar

namespace Instant

/-- The number of the day on which an instant falls. -/
def dayNumber (t : Instant) : Int :=
  t.seconds / 86400

/-- The whole seconds since the beginning of the day. -/
def secondOfDay (t : Instant) : Nat :=
  (t.seconds % 86400).toNat

def date (t : Instant) : Calendar.Date :=
  Calendar.ofDayNumber t.dayNumber

/-- Hours, minutes and seconds; a leap second is the second numbered sixty. -/
def clock (t : Instant) : String :=
  let s := t.secondOfDay
  Calendar.padded 2 (s / 3600) ++ ":" ++ Calendar.padded 2 (s / 60 % 60) ++ ":" ++
    Calendar.padded 2 (s % 60 + t.nanos / 1000000000)

/-- The form for reading: weekday, month, day, year and time of day. -/
def display (t : Instant) : String :=
  let d := t.date
  Calendar.weekdayName (Calendar.weekday t.dayNumber) ++ " " ++ Calendar.monthName d.month ++ " " ++
    Calendar.padded 2 d.day ++ " " ++ Calendar.yearText d.year ++ " " ++ t.clock ++
    " GMT+0000 (Coordinated Universal Time)"

/-- The form for interchange: year, month, day and time of day down to whole milliseconds. -/
def timestamp (t : Instant) : String :=
  let d := t.date
  Calendar.yearText d.year ++ "-" ++ Calendar.padded 2 d.month ++ "-" ++ Calendar.padded 2 d.day ++
    "T" ++ t.clock ++ "." ++ Calendar.padded 3 (t.nanos % 1000000000 / 1000000) ++ "Z"

end Instant
end ShapeCheck
