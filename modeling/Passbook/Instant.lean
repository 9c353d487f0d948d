/-!
Instants of time, counted in microseconds from the start of the year 1970, and the calendar that dates
follow: months and days, and weeks that begin on Monday. The clock of a ledger starts at `Instant.start`
and goes on by one microsecond with every reading.
-/

set_option autoImplicit false
set_option relaxedAutoImplicit false

-- The zero of a sum is that of the core library, whatever else is imported.
attribute [local instance (high)] Zero.ofOfNat0

namespace Passbook

/-- Microseconds from the start of the year 1970. -/
abbrev Instant := Int

namespace Instant

/-- Whether a year has a leap day. -/
def isLeap (year : Nat) : Bool := year % 4 == 0 && (year % 100 != 0 || year % 400 == 0)

/-- The days of a month. -/
def daysOf (year month : Nat) : Nat :=
  if month = 2 then (if isLeap year then 29 else 28)
  else if month = 4 ∨ month = 6 ∨ month = 9 ∨ month = 11 then 30
  else 31

/-- The days before the first of a month, counted from the start of the first year. -/
def daysBefore (year month : Nat) : Nat :=
  let past := year - 1
  past * 365 + past / 4 - past / 100 + past / 400 +
    ((List.range (month - 1)).map fun earlier ↦ daysOf year (earlier + 1)).sum

/-- The first year of the calendar. -/
def firstYear : Nat := 1

/-- The last year of the calendar. -/
def lastYear : Nat := 9999

/-- The day of the week on which a year begins; Monday is zero. The first year begins on one. -/
def firstWeekday (year : Nat) : Nat := daysBefore year 1 % 7

/-- The weeks of a year: a week belongs to the year in which its Thursday lies. -/
def weeksOf (year : Nat) : Nat :=
  if firstWeekday year = 3 ∨ (firstWeekday year = 2 ∧ isLeap year) then 53 else 52

/-- The days before the first week of a year, counted from the start of the first year. -/
def daysBeforeWeeks (year : Nat) : Nat :=
  if firstWeekday year ≤ 3 then daysBefore year 1 - firstWeekday year
  else daysBefore year 1 + 7 - firstWeekday year

/-- The microseconds of a second. -/
def perSecond : Int := 1000000

/-- The microseconds of a day. -/
def perDay : Int := 24 * 60 * 60 * perSecond

/-- The start of the day before which so many days have passed since the start of the first year. -/
def ofDays (days : Nat) : Instant := ((days : Int) - (daysBefore 1970 1 : Nat)) * perDay

/-- The start of a day. -/
def ofDate (year month day : Nat) : Instant := ofDays (daysBefore year month + (day - 1))

/-- Where the clock of a ledger starts. -/
def start : Instant := ofDate 2027 1 1

/-- Why a text denotes no instant. -/
inductive Fault where
  | malformed (text : String)
  | yearRange (year : Nat)
  | monthRange
  | dayRange
  | hourRange
  | minuteRange
  | secondRange
  /-- A clock is ahead or behind by so many microseconds, which is a day or more. -/
  | offsetRange (microseconds : Int)
deriving DecidableEq, Repr

/-- A span of time in days, seconds and microseconds, of which only the days may be below zero. -/
def spanText (microseconds : Int) : String :=
  let rest := microseconds.fmod perDay
  let parts := [
    ("days", microseconds.fdiv perDay),
    ("seconds", rest.fdiv perSecond),
    ("microseconds", rest.fmod perSecond)]
  let shown := (parts.filter (·.2 ≠ 0)).map fun (name, count) ↦ name ++ "=" ++ toString count
  "datetime.timedelta(" ++ (if shown.isEmpty then "0" else ", ".intercalate shown) ++ ")"

end Instant

end Passbook
