import CuratedHistory.History.Instant

namespace CuratedHistory.Instant

/-! Instants from RFC 3339 texts with any offset. Blanks may stand between the
parts, a space or a small letter may take the place of the capital T, numbers may
lack leading zeros, and the offset may be written without a colon. -/

/-- A number of at most the given count of digits, after blanks. -/
def readNumber (width : Nat) (text : Text) : Option (Nat × Text) :=
  let text := Text.trimStart text
  let run := (text.takeWhile Char.isDigit).take width
  if run = [] then none else some (Decimal.value run, text.drop run.length)

/-- A number of any count of digits. -/
def readLongNumber (text : Text) : Option (Nat × Text) :=
  readNumber text.length text

/-- A year: four digits at most, or any number after a sign. -/
def readYear (text : Text) : Option (Int × Text) :=
  match Text.trimStart text with
  | '-' :: rest => (readUnspaced rest).map fun (year, rest) => (-(year : Int), rest)
  | '+' :: rest => (readUnspaced rest).map fun (year, rest) => ((year : Int), rest)
  | text => (readNumber 4 text).map fun (year, rest) => ((year : Int), rest)
where
  /-- The digits must follow the sign directly. -/
  readUnspaced (text : Text) : Option (Nat × Text) :=
    match text with
    | c :: _ => if c.isDigit then readLongNumber text else none
    | [] => none

/-- A separator after blanks. -/
def readMark (mark : Char) (text : Text) : Option Text :=
  match Text.trimStart text with
  | c :: rest => if c = mark then some rest else none
  | [] => none

/-- A fraction of a second in nanoseconds; digits past the ninth are passed over. -/
def readFraction (text : Text) : Option (Nat × Text) :=
  match text with
  | '.' :: rest =>
      let run := rest.takeWhile Char.isDigit
      if run = [] then none
      else
        let kept := run.take 9
        some (Decimal.value (kept ++ List.replicate (9 - kept.length) '0'),
          rest.drop run.length)
  | _ => some (0, text)

/-- Two digits. -/
def readTwoDigits (text : Text) : Option (Nat × Text) :=
  match text with
  | a :: b :: rest =>
      if a.isDigit ∧ b.isDigit then some (Decimal.value [a, b], rest) else none
  | _ => none

/-- The seconds that an offset adds to UTC. -/
def readOffset (text : Text) : Option (Int × Text) :=
  match text with
  | 'Z' :: rest | 'z' :: rest => some (0, rest)
  | u :: t :: c :: rest =>
      if Text.lower [u, t, c] = "utc".toList then some (0, rest)
      else if u = '+' then readClock (t :: c :: rest)
      else if u = '-' ∨ u = '\u2212' then
        (readClock (t :: c :: rest)).map fun (seconds, rest) => (-seconds, rest)
      else none
  | _ => none
where
  /-- Hours and minutes with colons or blanks between them, if anything. -/
  readClock (text : Text) : Option (Int × Text) := do
    let (hours, rest) ← readTwoDigits text
    let (minutes, rest) ← readTwoDigits (rest.dropWhile fun c => c == ':' || isBlank c)
    if 60 ≤ minutes then none
    else return ((hours * 3600 + minutes * 60 : Nat), rest)

/-- The instant of local date and time at an offset, if all parts are in range. -/
def ofParts? (date : Date) (hour minute second nanos : Nat) (offset : Int) : Option Instant :=
  let leap := if second = 60 then 1 else 0
  let instant : Instant :=
    { seconds := date.toDays * secondsPerDay +
        (hour * 3600 + minute * 60 + (second - leap) : Nat) - offset
      nanos := nanos + leap * nanosPerSecond }
  if date.onCalendar ∧ date.inRange ∧ hour < 24 ∧ minute < 60 ∧ second ≤ 60 ∧
      offset.natAbs < 86400 ∧ instant.date.inRange then some instant
  else none

/-- Year, month and day with hyphens between them. -/
def readDate (text : Text) : Option (Date × Text) := do
  let (year, rest) ← readYear text
  let rest ← readMark '-' rest
  let (month, rest) ← readNumber 2 rest
  let rest ← readMark '-' rest
  let (day, rest) ← readNumber 2 rest
  return (⟨year, month, day⟩, rest)

/-- What stands between a date and a time of day. -/
def readDateEnd (text : Text) : Option Text :=
  match text with
  | 'T' :: rest | 't' :: rest | ' ' :: rest => some rest
  | _ => none

/-- Hour, minute and second with colons between them, and nanoseconds. -/
def readTime (text : Text) : Option ((Nat × Nat × Nat × Nat) × Text) := do
  let (hour, rest) ← readNumber 2 text
  let rest ← readMark ':' rest
  let (minute, rest) ← readNumber 2 rest
  let rest ← readMark ':' rest
  let (second, rest) ← readNumber 2 rest
  let (nanos, rest) ← readFraction rest
  return ((hour, minute, second, nanos), rest)

def ofText? (text : Text) : Option Instant := do
  let (date, rest) ← readDate text
  let rest ← readDateEnd rest
  let ((hour, minute, second, nanos), rest) ← readTime rest
  let (offset, rest) ← readOffset (Text.trimStart rest)
  if Text.trimStart rest = [] then ofParts? date hour minute second nanos offset
  else none

end CuratedHistory.Instant
