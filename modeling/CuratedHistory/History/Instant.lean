import CuratedHistory.Text.Decimal

namespace CuratedHistory

/-! Moments in UTC on the proleptic Gregorian calendar, and their texts. -/

structure Date where
  year : Int
  month : Int
  day : Int
  deriving DecidableEq, Repr

namespace Date

/-- Days from the first of March of year 0 to the first day of 1970. -/
def epochShift : Int := 719468

/-- Days in four hundred years. -/
def eraDays : Int := 146097

/-- The date that lies a number of days after the first day of 1970. Years are
counted from March here, so that a leap day ends its year. -/
def ofDays (days : Int) : Date :=
  let shifted := days + epochShift
  let era := shifted / eraDays
  let dayOfEra := shifted % eraDays
  let yearOfEra :=
    (dayOfEra - dayOfEra / 1460 + dayOfEra / 36524 - dayOfEra / 146096) / 365
  let dayOfYear := dayOfEra - (365 * yearOfEra + yearOfEra / 4 - yearOfEra / 100)
  let monthFromMarch := (5 * dayOfYear + 2) / 153
  let month := if monthFromMarch < 10 then monthFromMarch + 3 else monthFromMarch - 9
  { year := yearOfEra + era * 400 + (if month ≤ 2 then 1 else 0)
    month
    day := dayOfYear - (153 * monthFromMarch + 2) / 5 + 1 }

/-- The number of days from the first day of 1970 to the date. -/
def toDays (date : Date) : Int :=
  let year := if date.month ≤ 2 then date.year - 1 else date.year
  let era := year / 400
  let yearOfEra := year % 400
  let dayOfYear := (153 * ((date.month + 9) % 12) + 2) / 5 + date.day - 1
  era * eraDays + (yearOfEra * 365 + yearOfEra / 4 - yearOfEra / 100 + dayOfYear) - epochShift

/-- A date is on the calendar if counting its days leads back to it. -/
def onCalendar (date : Date) : Bool :=
  1 ≤ date.month && date.month ≤ 12 && 1 ≤ date.day && date.day ≤ 31 &&
    ofDays date.toDays == date

def firstYear : Int := -262143

def lastYear : Int := 262142

def inRange (date : Date) : Bool :=
  firstYear ≤ date.year && date.year ≤ lastYear

end Date

structure Instant where
  /-- Whole seconds from the start of 1970. -/
  seconds : Int
  /-- Nanoseconds after them. A leap second has the seconds of the second before
  it and more than the usual number of nanoseconds. -/
  nanos : Nat
  deriving DecidableEq, Repr

namespace Instant

def epoch : Instant := ⟨0, 0⟩

def secondsPerDay : Int := 86400

def nanosPerSecond : Nat := 1000000000

def date (instant : Instant) : Date :=
  Date.ofDays (instant.seconds / secondsPerDay)

def secondOfDay (instant : Instant) : Nat :=
  (instant.seconds % secondsPerDay).toNat

def hour (instant : Instant) : Nat :=
  instant.secondOfDay / 3600

def minute (instant : Instant) : Nat :=
  instant.secondOfDay / 60 % 60

/-- The second of the minute, 60 in a leap second. -/
def second (instant : Instant) : Nat :=
  instant.secondOfDay % 60 + instant.nanos / nanosPerSecond

/-- The years in range, and nanoseconds that make at most a leap second, which
follows the last second of a minute. -/
def representable (instant : Instant) : Bool :=
  instant.date.inRange &&
    (instant.nanos < nanosPerSecond ||
      (instant.nanos < 2 * nanosPerSecond && instant.secondOfDay % 60 == 59))

/-- The instant of a time in seconds, the epoch if that has no representable date. -/
def ofSeconds (seconds : Int) : Instant :=
  if (Instant.mk seconds 0).representable then ⟨seconds, 0⟩ else epoch

/-- Four digits or more, with a sign unless the year has exactly four. -/
def yearText (year : Int) : Text :=
  if 0 ≤ year ∧ year ≤ 9999 then Decimal.padded 4 year.toNat
  else (if year < 0 then '-' else '+') :: Decimal.padded 4 year.natAbs

def dateText (date : Date) : Text :=
  yearText date.year ++ '-' :: Decimal.padded 2 date.month.toNat ++
    '-' :: Decimal.padded 2 date.day.toNat

/-- The nanoseconds after a point, in the fewest of 0, 3, 6 or 9 digits. -/
def fractionText (nanos : Nat) : Text :=
  if nanos = 0 then []
  else if nanos % 1000000 = 0 then '.' :: Decimal.padded 3 (nanos / 1000000)
  else if nanos % 1000 = 0 then '.' :: Decimal.padded 6 (nanos / 1000)
  else '.' :: Decimal.padded 9 nanos

def text (instant : Instant) : Text :=
  dateText instant.date ++ 'T' :: Decimal.padded 2 instant.hour ++
    ':' :: Decimal.padded 2 instant.minute ++ ':' :: Decimal.padded 2 instant.second ++
    fractionText (instant.nanos % nanosPerSecond) ++ ['Z']

/-- The text of the instant for a reader, down to the minute. -/
def minuteText (instant : Instant) : Text :=
  dateText instant.date ++ ' ' :: Decimal.padded 2 instant.hour ++
    ':' :: Decimal.padded 2 instant.minute ++ " UTC".toList

end Instant

end CuratedHistory
