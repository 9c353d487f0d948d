import Passbook.Failure
import Passbook.Text.Encoding

/-!
Reading instants. A date is written with a month and a day or with a week and perhaps a day of it, with
or without hyphens; any one character separates it from a time of day. That has hours, perhaps minutes
and seconds, with or without colons, perhaps a fraction, and may say how far its clock is ahead, which
does not count. Some strings do not tell where the date ends, and then a rule decides
(`datePlace?`). The form is looked at byte by byte, and ranges are checked afterwards. `Instant.read`
reads a text.
-/

set_option autoImplicit false
set_option relaxedAutoImplicit false

-- Powers are those of the core library, whatever else is imported.
attribute [local instance (high)] instPowNat

namespace Passbook.Instant

/-- The mark that stands for the end of a text. -/
def ending : Char := '\x00'

/-- A number of exactly so many digits, and what follows. -/
def number? (width : Nat) (text : List Char) : Option (Nat × List Char) :=
  let digits := (text.take width).filterMap Text.plainDigit?
  if digits.length = width then some (Text.ofDigits digits, text.drop width) else none

/-- A date as it is written. -/
inductive WrittenDate where
  | ofMonth (year month day : Nat)
  | ofWeek (year week day : Nat)
deriving DecidableEq, Repr

/-- Where the date at the start of a text ends. Of a week and digits it is not clear which of them belong
to the date: behind a hyphen none does, and without hyphens one does if that leaves pairs of digits. -/
def datePlace? (text : List Char) : Option Nat :=
  let at? (place : Nat) (c : Char) : Bool := text[place]? == some c
  if text.length < 7 then none
  else if text.length = 7 then some 7
  else if at? 4 '-' then
    if at? 5 'W' then
      if at? 8 '-' then
        if text.length = 9 then none
        else if (text[10]?.map Char.isDigit).getD false then some 8
        else some 10
      else some 8
    else some 10
  else if at? 4 'W' then
    let place := 7 + ((text.drop 7).takeWhile Char.isDigit).length
    if place < 9 then some place
    else if place % 2 = 0 then some 7
    else some 8
  else some 8

/-- What follows a hyphen, if there has to be one. -/
def behindHyphen? (hyphens : Bool) (text : List Char) : Option (List Char) :=
  match hyphens, text with
  | false, text => some text
  | true, '-' :: rest => some rest
  | true, _ => none

/-- The date at the start of a text, which ends at a place. -/
def date? (place : Nat) (text : List Char) : Option WrittenDate := do
  let (year, rest) ← number? 4 text
  let hyphens := rest.head? = some '-'
  let rest := if hyphens then rest.drop 1 else rest
  match rest with
  | 'W' :: rest =>
    let (week, rest) ← number? 2 rest
    if text.length - rest.length < place then
      let (day, _) ← number? 1 (← behindHyphen? hyphens rest)
      return .ofWeek year week day
    else return .ofWeek year week 1
  | rest =>
    let (month, rest) ← number? 2 rest
    let (day, _) ← number? 2 (← behindHyphen? hyphens rest)
    return .ofMonth year month day

/-- A time of day as it is written. -/
structure Clock where
  hours : Nat
  minutes : Nat
  seconds : Nat
  microseconds : Nat
deriving DecidableEq, Repr

/-- The microseconds of a fraction, of which the first six digits count, and whether anything but the end
follows. -/
def fraction? (following : Char) (text : List Char) : Option (Nat × Bool) := do
  let width := min 6 text.length
  let (number, rest) ← number? width text
  let rest := rest.dropWhile Char.isDigit
  return (number * 10 ^ (6 - width), rest.headD following ≠ ending)

/-- So many parts of a time of day at most, a fraction in microseconds, and whether anything but the end
follows. The character behind the first part says whether there are colons. -/
def clockParts? (following : Char) :
    Nat → Option Bool → List Char → Option (List Nat × Nat × Bool)
  | 0, _, text => (fraction? following text).map fun (microseconds, more) ↦ ([], microseconds, more)
  | parts + 1, colons, text => do
    let (part, rest) ← number? 2 text
    let mark := rest.headD following
    let colons := colons.getD (mark = ':')
    match rest with
    | [] | [_] => return ([part], 0, mark ≠ ending)
    | _ :: behind =>
      if mark = ':' ∧ colons then
        let (others, rest) ← clockParts? following parts (some colons) behind
        return (part :: others, rest)
      else if mark = '.' ∨ mark = ',' then
        return ([part], ← fraction? following behind)
      else if colons then none
      else
        let (others, rest) ← clockParts? following parts (some colons) rest
        return (part :: others, rest)

/-- A time of day, and whether anything but the end follows. -/
def clock? (following : Char) (text : List Char) : Option (Clock × Bool) := do
  let (parts, microseconds, more) ← clockParts? following 3 none text
  return ({
    hours := parts.getD 0 0
    minutes := parts.getD 1 0
    seconds := parts.getD 2 0
    microseconds }, more)

/-- How far a clock is ahead or behind, in microseconds; less than a second does not count. -/
def offset (behind : Bool) (clock : Clock) : Int :=
  let seconds : Int := (clock.hours * 60 + clock.minutes) * 60 + clock.seconds
  if seconds = 0 then 0
  else
    let length := seconds * perSecond + clock.microseconds
    if behind then -length else length

/-- Whether a character begins what says how far a clock is ahead. -/
def beginsOffset (c : Char) : Bool := c = '+' || c = '-' || c = 'Z'

/-- A time of day, and how far its clock is ahead. -/
def timeOfDay? (text : List Char) : Option (Clock × Int) := do
  let zone := text.dropWhile (!beginsOffset ·)
  let (clock, more) ← clock? (zone.headD ending) (text.takeWhile (!beginsOffset ·))
  match zone with
  | [] => if more then none else return (clock, 0)
  | 'Z' :: rest => if rest.headD ending = ending then return (clock, 0) else none
  | sign :: rest =>
    let (ahead, more) ← clock? ending rest
    if more then none else return (clock, offset (sign = '-') ahead)

/-- What follows the first character, which may consist of several bytes. -/
def behindCharacter (text : List Char) : List Char :=
  match text with
  | [] => []
  | first :: _ =>
    let lead := first.toNat
    text.drop (if lead < 0x80 then 1 else if lead < 0xE0 then 2 else if lead < 0xF0 then 3 else 4)

/-- A date, a time of day and how far its clock is ahead, as bytes write them. -/
def written? (text : List Char) : Option (WrittenDate × Clock × Int) := do
  let place ← datePlace? text
  let date ← date? place text
  if text.length ≤ place then return (date, ⟨0, 0, 0, 0⟩, 0)
  else return (date, ← timeOfDay? (behindCharacter (text.drop place)))

/-- Whether a written date may be looked for in the calendar: a year has so many weeks, and a week has
seven days. -/
def WrittenDate.isSound : WrittenDate → Bool
  | .ofMonth .. => true
  | .ofWeek year week day => 1 ≤ week && week ≤ weeksOf year && 1 ≤ day && day ≤ 7

/-- The start of the day of a date. The first year has no weeks before it. -/
def WrittenDate.read : WrittenDate → Except Fault Instant
  | .ofMonth year month day =>
    if year < firstYear ∨ lastYear < year then .error (.yearRange year)
    else if month < 1 ∨ 12 < month then .error .monthRange
    else if day < 1 ∨ daysOf year month < day then .error .dayRange
    else .ok (ofDate year month day)
  | .ofWeek year week day =>
    let days := daysBeforeWeeks year + (week - 1) * 7 + (day - 1)
    if year < firstYear then .error .monthRange
    else if daysBefore (lastYear + 1) 1 ≤ days then .error (.yearRange (lastYear + 1))
    else .ok (ofDays days)

/-- The microseconds of a time of day. -/
def Clock.read (clock : Clock) : Except Fault Int :=
  if 23 < clock.hours then .error .hourRange
  else if 59 < clock.minutes then .error .minuteRange
  else if 59 < clock.seconds then .error .secondRange
  else
    let seconds : Int := (clock.hours * 60 + clock.minutes) * 60 + clock.seconds
    .ok (seconds * perSecond + clock.microseconds)

/-- The instant that a text denotes, or why it denotes none. -/
def ofText (text : String) : Except Fault Instant :=
  match written? ((Text.bytes text).map Char.ofNat) with
  | none => .error (.malformed text)
  | some (date, clock, ahead) => do
    if !date.isSound then throw (.malformed text)
    if perDay ≤ ahead ∨ ahead ≤ -perDay then throw (.offsetRange ahead)
    let day ← date.read
    return day + (← clock.read)

/-- The instant that a text denotes. -/
def read (text : String) : Except Failure Instant :=
  (ofText text).mapError fun fault ↦ .badValue (.badInstant fault)

end Passbook.Instant
