import MemoryWatchdog.Decimal.Layout

/-!
# Points in time and calendar dates

A moment is a count of seconds since the start of 1970 and a fraction in nanoseconds; in a leap second the fraction goes on past a
whole second. The calendar is the Gregorian one, extended to all years, and every day has 86400 seconds. Moments are written in
two ways: with dashes and colons and as few fraction digits as hold the value, and, for file names, without them and always with
milliseconds.
-/

namespace MemoryWatchdog

/-- A point in time. A fraction of a whole second or more belongs to the leap second that follows the second counted. -/
structure Moment where
  seconds : Int
  nanoseconds : Nat
  deriving DecidableEq, Repr, Inhabited

/-- A calendar date. -/
structure CivilDate where
  year : Int
  month : Nat
  day : Nat
  deriving DecidableEq, Repr

/-- The date that lies the given number of days after the first day of 1970. The count of days is shifted to the first of March of
the year 0, so that a leap day ends a year, and cut into eras of 400 years, which all have the same length. -/
def CivilDate.ofDays (days : Int) : CivilDate :=
  let shifted := days + 719468
  let era := shifted / 146097
  let dayOfEra := (shifted % 146097).toNat
  let yearOfEra := (dayOfEra - dayOfEra / 1460 + dayOfEra / 36524 - dayOfEra / 146096) / 365
  let dayOfYear := dayOfEra - (365 * yearOfEra + yearOfEra / 4 - yearOfEra / 100)
  let shiftedMonth := (5 * dayOfYear + 2) / 153
  let month := if shiftedMonth < 10 then shiftedMonth + 3 else shiftedMonth - 9
  { year := yearOfEra + era * 400 + if month ≤ 2 then 1 else 0
    month
    day := dayOfYear - (153 * shiftedMonth + 2) / 5 + 1 }

namespace Moment

/-- The first and the last second of the years −262143 to 262142, which are the years that can be counted. -/
def firstSecond : Int := -8334601228800

def lastSecond : Int := 8210266876799

/-- Whether the moment exists: its year can be counted, and its fraction is less than a second, or less than two in the last second
of a minute. -/
def isValid (m : Moment) : Bool :=
  decide (firstSecond ≤ m.seconds) && decide (m.seconds ≤ lastSecond) &&
    (decide (m.nanoseconds < 1000000000) ||
      (decide (m.nanoseconds < 2000000000) && decide (m.seconds % 60 = 59)))

/-- A number with at least the given count of digits. -/
def padded (width n : Nat) : String :=
  let ds := Decimal.digitsOf n
  String.ofList (List.replicate (width - ds.length) '0' ++ ds)

/-- A year has four digits; outside the years 0 to 9999 it has a sign and at least four. -/
def yearText (year : Int) : String :=
  if 0 ≤ year ∧ year ≤ 9999 then padded 4 year.toNat
  else (if year < 0 then "-" else "+") ++ padded 4 year.natAbs

def date (m : Moment) : CivilDate :=
  CivilDate.ofDays (m.seconds / 86400)

def hour (m : Moment) : Nat :=
  (m.seconds % 86400).toNat / 3600

def minute (m : Moment) : Nat :=
  (m.seconds % 3600).toNat / 60

/-- The second of the minute; it is 60 in a leap second. -/
def second (m : Moment) : Nat :=
  (m.seconds % 60).toNat + m.nanoseconds / 1000000000

/-- The part of the fraction below a second. -/
def fraction (m : Moment) : Nat :=
  m.nanoseconds % 1000000000

/-- The fraction with no, three, six or nine digits, as few as hold it. -/
def fractionText (m : Moment) : String :=
  let f := m.fraction
  if f = 0 then ""
  else if f % 1000000 = 0 then "." ++ padded 3 (f / 1000000)
  else if f % 1000 = 0 then "." ++ padded 6 (f / 1000)
  else "." ++ padded 9 f

/-- The moment with dashes and colons, as reports show it. -/
def text (m : Moment) : String :=
  let d := m.date
  yearText d.year ++ "-" ++ padded 2 d.month ++ "-" ++ padded 2 d.day ++ "T" ++ padded 2 m.hour ++ ":" ++ padded 2 m.minute
    ++ ":" ++ padded 2 m.second ++ m.fractionText ++ "Z"

/-- The moment without dashes and colons and with milliseconds, as file names hold it. -/
def stamp (m : Moment) : String :=
  let d := m.date
  yearText d.year ++ padded 2 d.month ++ padded 2 d.day ++ "T" ++ padded 2 m.hour ++ padded 2 m.minute ++ padded 2 m.second
    ++ "." ++ padded 3 (m.fraction / 1000000) ++ "Z"

end Moment

/-- A length of time, in nanoseconds. -/
structure Duration where
  nanoseconds : Nat
  deriving DecidableEq, Repr, Inhabited

namespace Duration

def ofSeconds (n : Nat) : Duration :=
  ⟨1000000000 * n⟩

/-- The length in seconds: the whole seconds and the fraction are each rounded, and then their sum is. -/
def inSeconds (d : Duration) : Binary64 :=
  let whole := Binary64.nearest ((d.nanoseconds / 1000000000 : Nat) : Rat)
  let fraction := Binary64.nearest (((d.nanoseconds % 1000000000 : Nat) : Rat) / 1000000000)
  Binary64.ofRat (whole + fraction)

/-- The length in milliseconds, rounded up: timers have no finer steps. -/
def inMilliseconds (d : Duration) : Nat :=
  (d.nanoseconds + 999999) / 1000000

end Duration

end MemoryWatchdog
