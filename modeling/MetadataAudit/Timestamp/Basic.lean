/-! # Timestamps

A timestamp is a second of a day of the Gregorian calendar in universal time, with a fraction of
nanoseconds.  The calendar reaches from the first day of the year -262143 to the last day of the
year 262142.  Any minute may have a sixtieth second.
-/
namespace MetadataAudit

/-- A day of the Gregorian calendar. -/
structure Date where
  year : Int
  month : Nat
  day : Nat
deriving DecidableEq

namespace Date

/-- The first year of the calendar. -/
def firstYear : Int := -262143

/-- The last year of the calendar. -/
def lastYear : Int := 262142

/-- Whether a year has a twenty-ninth of February. -/
def isLeap (year : Int) : Bool :=
  year % 4 = 0 && (year % 100 ≠ 0 || year % 400 = 0)

/-- How many days a month has. -/
def daysIn (year : Int) (month : Nat) : Nat :=
  if month = 2 then (if isLeap year then 29 else 28)
  else if month = 4 ∨ month = 6 ∨ month = 9 ∨ month = 11 then 30
  else 31

/-- Whether the calendar has this day. -/
def isValid (d : Date) : Bool :=
  firstYear ≤ d.year && d.year ≤ lastYear && 1 ≤ d.month && d.month ≤ 12 && 1 ≤ d.day &&
    d.day ≤ daysIn d.year d.month

/-- The day after. -/
def next (d : Date) : Date :=
  if d.day < daysIn d.year d.month then { d with day := d.day + 1 }
  else if d.month < 12 then ⟨d.year, d.month + 1, 1⟩
  else ⟨d.year + 1, 1, 1⟩

/-- The day before. -/
def previous (d : Date) : Date :=
  if 1 < d.day then { d with day := d.day - 1 }
  else if 1 < d.month then ⟨d.year, d.month - 1, daysIn d.year (d.month - 1)⟩
  else ⟨d.year - 1, 12, 31⟩

/-- The day that is `days` days after the first of January 1970.  A calendar of 400 years that
begin in March has 146097 days. -/
def ofDayNumber (days : Int) : Date :=
  let z := days + 719468
  let era := z.fdiv 146097
  let dayOfEra := (z - era * 146097).toNat
  let yearOfEra := (dayOfEra - dayOfEra / 1460 + dayOfEra / 36524 - dayOfEra / 146096) / 365
  let dayOfYear := dayOfEra - (365 * yearOfEra + yearOfEra / 4 - yearOfEra / 100)
  let shifted := (5 * dayOfYear + 2) / 153
  let day := dayOfYear - (153 * shifted + 2) / 5 + 1
  let month := if shifted < 10 then shifted + 3 else shifted - 9
  let year := era * 400 + (yearOfEra : Int) + (if month ≤ 2 then 1 else 0)
  ⟨year, month, day⟩

end Date

/-- A point of universal time; `second` is 60 in a leap second. -/
structure Timestamp where
  date : Date
  hour : Nat
  minute : Nat
  second : Nat
  nano : Nat
  date_valid : date.isValid = true
  hour_lt : hour < 24
  minute_lt : minute < 60
  second_le : second ≤ 60
  nano_lt : nano < 1000000000
deriving DecidableEq

namespace Timestamp

/-- The timestamp with the given parts, if they are those of one. -/
def of? (date : Date) (hour minute second nano : Nat) : Option Timestamp :=
  if h : date.isValid = true ∧ hour < 24 ∧ minute < 60 ∧ second ≤ 60 ∧ nano < 1000000000 then
    some ⟨date, hour, minute, second, nano, h.1, h.2.1, h.2.2.1, h.2.2.2.1, h.2.2.2.2⟩
  else none

/-- The first second of 1970. -/
def epoch : Timestamp :=
  ⟨⟨1970, 1, 1⟩, 0, 0, 0, 0, by decide, by decide, by decide, by decide, by decide⟩

instance : Inhabited Timestamp := ⟨epoch⟩

/-- The timestamp a number of nanoseconds after the first second of 1970. -/
def ofNanos? (nanos : Int) : Option Timestamp :=
  let seconds := nanos.fdiv 1000000000
  let ofDay := (seconds.fmod 86400).toNat
  of? (Date.ofDayNumber (seconds.fdiv 86400)) (ofDay / 3600) (ofDay / 60 % 60) (ofDay % 60)
    (nanos.fmod 1000000000).toNat

/-- The timestamp that a clock shows in universal time when the local clock, `offset` minutes
ahead, shows the given parts. -/
def ofLocal? (date : Date) (hour minute second nano : Nat) (offset : Int) : Option Timestamp :=
  let minutes := (hour * 60 + minute : Int) - offset
  let date := if minutes < 0 then date.previous else if 1440 ≤ minutes then date.next else date
  let minutes := (minutes % 1440).toNat
  of? date (minutes / 60) (minutes % 60) second nano

end Timestamp
end MetadataAudit
