import CuratedHistory.History.InstantReader
import CuratedHistory.Proofs.History.Calendar
import CuratedHistory.Proofs.Text.Case
import CuratedHistory.Proofs.Text.Decimal
import CuratedHistory.Proofs.Text.Trimming

namespace CuratedHistory

/-! Timestamps: a local date and time of day with the offset of the clock, how they are spelled,
and which instant they mean. An instant is read from the texts that spell a timestamp of it, and
from no other ones. -/

open Decimal (Ends Writes)

structure Timestamp where
  date : Date
  hour : Nat
  minute : Nat
  /-- The second of the minute, 60 in a leap second. -/
  second : Nat
  nanos : Nat
  /-- How many seconds the clock is ahead of UTC. -/
  offset : Int
  deriving DecidableEq, Repr

namespace Timestamp

/-- All parts are in the ranges of a calendar and of a clock. -/
structure Valid (stamp : Timestamp) : Prop where
  date : stamp.date.Valid
  hour : stamp.hour < 24
  minute : stamp.minute < 60
  second : stamp.second ≤ 60
  offset : stamp.offset.natAbs < 86400

/-- A leap second counts as more nanoseconds of the second before it. -/
def instant (stamp : Timestamp) : Instant :=
  let leap := if stamp.second = 60 then 1 else 0
  { seconds := stamp.date.toDays * Instant.secondsPerDay +
      (stamp.hour * 3600 + stamp.minute * 60 + (stamp.second - leap) : Nat) - stamp.offset
    nanos := stamp.nanos + leap * Instant.nanosPerSecond }

/-! The grammar -/

/-- Blanks may stand in front of what is written. -/
inductive Spaced (written : Text → Prop) : Text → Prop where
  | mk {blanks text : Text} (blank : ∀ c ∈ blanks, isBlank c = true) (isWritten : written text) :
      Spaced written (blanks ++ text)

/-- Digits up to a width. -/
structure Number (width n : Nat) (text : Text) : Prop where
  writes : Writes n text
  short : text.length ≤ width

/-- Four digits at most, or a sign and any number of them. -/
inductive YearText : Int → Text → Prop where
  | plain {n : Nat} {text : Text} (number : Number 4 n text) : YearText n text
  | before {n : Nat} {text : Text} (writes : Writes n text) : YearText (-n) ('-' :: text)
  | after {n : Nat} {text : Text} (writes : Writes n text) : YearText n ('+' :: text)

inductive DateText : Date → Text → Prop where
  | mk {year : Int} {month day : Nat} {yearText stop monthText stopToo dayText : Text}
      (isYear : Spaced (YearText year) yearText) (isStop : Spaced (· = ['-']) stop)
      (isMonth : Spaced (Number 2 month) monthText) (isStopToo : Spaced (· = ['-']) stopToo)
      (isDay : Spaced (Number 2 day) dayText) :
      DateText ⟨year, month, day⟩ (yearText ++ (stop ++ (monthText ++ (stopToo ++ dayText))))

/-- A fraction of a second has any number of digits, of which those past the ninth do not count. -/
inductive FractionText : Nat → Text → Prop where
  | none : FractionText 0 []
  | digits {n : Nat} {text : Text} (writes : Writes n text) :
      FractionText (n * 10 ^ 9 / 10 ^ text.length) ('.' :: text)

inductive ClockText : Nat → Nat → Nat → Nat → Text → Prop where
  | mk {hour minute second nanos : Nat} {hourText stop minuteText stopToo secondText fraction : Text}
      (isHour : Spaced (Number 2 hour) hourText) (isStop : Spaced (· = [':']) stop)
      (isMinute : Spaced (Number 2 minute) minuteText) (isStopToo : Spaced (· = [':']) stopToo)
      (isSecond : Spaced (Number 2 second) secondText) (isFraction : FractionText nanos fraction) :
      ClockText hour minute second nanos
        (hourText ++ (stop ++ (minuteText ++ (stopToo ++ (secondText ++ fraction)))))

/-- Two digits each for hours and minutes, with colons or blanks between them, if anything. -/
inductive OffsetClock : Nat → Text → Prop where
  | mk {hours minutes : Nat} {hourText gap minuteText : Text} (isHours : Writes hours hourText)
      (twoHours : hourText.length = 2) (isGap : ∀ c ∈ gap, (c == ':' || isBlank c) = true)
      (isMinutes : Writes minutes minuteText) (twoMinutes : minuteText.length = 2)
      (small : minutes < 60) :
      OffsetClock (hours * 3600 + minutes * 60) (hourText ++ (gap ++ minuteText))

/-- UTC by letter or by name, or a sign and the hours and minutes. -/
inductive OffsetText : Int → Text → Prop where
  | zulu {c : Char} (isZulu : c = 'Z' ∨ c = 'z') : OffsetText 0 [c]
  | name {u t c : Char} (isName : Text.lower [u, t, c] = "utc".toList) : OffsetText 0 [u, t, c]
  | ahead {seconds : Nat} {clock : Text} (isClock : OffsetClock seconds clock) :
      OffsetText seconds ('+' :: clock)
  | behind {seconds : Nat} {clock : Text} {sign : Char} (isSign : sign = '-' ∨ sign = '\u2212')
      (isClock : OffsetClock seconds clock) : OffsetText (-seconds) (sign :: clock)

/-- Date, time of day and offset with a letter or a space between the first two. -/
inductive Spelled : Timestamp → Text → Prop where
  | mk {date : Date} {hour minute second nanos : Nat} {offset : Int} {mark : Char}
      {dateText clockText offsetText ending : Text} (isDate : DateText date dateText)
      (isMark : mark = 'T' ∨ mark = 't' ∨ mark = ' ')
      (isClock : ClockText hour minute second nanos clockText)
      (isOffset : Spaced (OffsetText offset) offsetText) (blank : ∀ c ∈ ending, isBlank c = true) :
      Spelled ⟨date, hour, minute, second, nanos, offset⟩
        (dateText ++ mark :: (clockText ++ (offsetText ++ ending)))

end Timestamp

namespace Instant

open Timestamp

variable {text rest written : Text} {width n : Nat} {year seconds : Int} {mark : Char}

theorem isBlank_of_isDigit {c : Char} (digit : c.isDigit = true) : isBlank c = false := by
  simp only [Char.isDigit, Bool.and_eq_true, decide_eq_true_eq, ge_iff_le, UInt32.le_iff_toNat_le] at digit
  have code : 48 ≤ c.toNat ∧ c.toNat ≤ 57 := digit
  simp only [isBlank, Bool.or_eq_false_iff, Bool.and_eq_false_iff, decide_eq_false_iff_not, beq_eq_false_iff_ne]
  omega

/-! Blanks in front -/

/-- What is written in some way begins with a character that is no blank. -/
def Solid (language : Text → Prop) : Prop :=
  ∀ text, language text → ∃ c rest, text = c :: rest ∧ isBlank c = false

theorem exists_trimmed {language : Text → Prop} (solid : Solid language) (spaced : Spaced language written)
    (rest : Text) : ∃ text, language text ∧ Text.trimStart (written ++ rest) = text ++ rest := by
  cases spaced with
  | @mk blanks text blank isWritten =>
      obtain ⟨c, more, rfl, first⟩ := solid text isWritten
      refine ⟨_, isWritten, ?_⟩
      rw [List.append_assoc, Text.trimStart, List.dropWhile_append_of_pos blank]
      exact Text.trimStart_eq_self (by simpa using first)

theorem exists_spaced {language : Text → Prop} (isWritten : language written)
    (trimmed : Text.trimStart text = written ++ rest) :
    ∃ spaced, Spaced language spaced ∧ text = spaced ++ rest := by
  obtain ⟨blanks, blank, whole⟩ := Text.exists_blank_append_trimStart text
  refine ⟨blanks ++ written, .mk blank isWritten, ?_⟩
  rw [List.append_assoc, ← trimmed]
  exact whole

/-! Numbers -/

theorem solid_digits (writes : Writes n text) : ∃ c rest, text = c :: rest ∧ isBlank c = false := by
  obtain ⟨c, rest, rfl⟩ := List.exists_cons_of_ne_nil writes.nonempty
  exact ⟨c, rest, rfl, isBlank_of_isDigit (writes.digits c List.mem_cons_self)⟩

theorem solid_number (width n : Nat) : Solid (Number width n) :=
  fun _ number => solid_digits number.writes

theorem readNumber_sound (read : readNumber width text = some (n, rest)) :
    ∃ written, Number width n written ∧ Text.trimStart text = written ++ rest := by
  simp only [readNumber] at read
  split at read
  · contradiction
  · rename_i something
    rw [Option.some.injEq, Prod.mk.injEq] at read
    obtain ⟨rfl, rfl⟩ := read
    have digits := List.take_prefix width ((Text.trimStart text).takeWhile Char.isDigit)
    have start := digits.trans (List.takeWhile_prefix Char.isDigit)
    refine ⟨_, ⟨⟨something, fun c member => ?_, rfl⟩, List.length_take_le _ _⟩, ?_⟩
    · exact List.mem_takeWhile_imp (digits.subset member)
    · exact (List.prefix_iff_eq_append.mp start).symm

theorem exists_number (read : readNumber width text = some (n, rest)) :
    ∃ digits, Spaced (Number width n) digits ∧ text = digits ++ rest := by
  obtain ⟨_, number, trimmed⟩ := readNumber_sound read
  exact exists_spaced number trimmed

theorem readNumber_trimmed (number : Number width n written) (ends : Ends rest)
    (trimmed : Text.trimStart text = written ++ rest) : readNumber width text = some (n, rest) := by
  obtain ⟨⟨something, digits, value⟩, short⟩ := number
  have run : ((written ++ rest).takeWhile Char.isDigit).take width = written := by
    rw [Decimal.takeWhile_digits digits ends, List.take_of_length_le short]
  simp only [readNumber, trimmed, run, if_neg something, value, List.drop_left]

theorem readNumber_spaced (spaced : Spaced (Number width n) written) (ends : Ends rest) :
    readNumber width (written ++ rest) = some (n, rest) := by
  obtain ⟨digits, number, trimmed⟩ := exists_trimmed (solid_number width n) spaced rest
  exact readNumber_trimmed number ends trimmed

theorem readUnspaced_sound (read : readYear.readUnspaced text = some (n, rest)) :
    ∃ written, Writes n written ∧ text = written ++ rest := by
  unfold readYear.readUnspaced at read
  split at read
  · rename_i c more
    split at read
    · rename_i digit
      obtain ⟨written, number, trimmed⟩ := readNumber_sound read
      have solid : ∀ d ∈ (c :: more).head?, isBlank d = false := by simpa using isBlank_of_isDigit digit
      rw [Text.trimStart_eq_self solid] at trimmed
      exact ⟨written, number.writes, trimmed⟩
    · contradiction
  · contradiction

theorem readUnspaced_written (writes : Writes n written) (ends : Ends rest) :
    readYear.readUnspaced (written ++ rest) = some (n, rest) := by
  obtain ⟨c, more, rfl, solid⟩ := solid_digits writes
  have digit := writes.digits c List.mem_cons_self
  have read : readLongNumber (c :: (more ++ rest)) = some (n, rest) := by
    refine readNumber_trimmed ⟨writes, ?_⟩ ends (Text.trimStart_eq_self (by simpa using solid))
    rw [← List.cons_append, List.length_append]
    exact Nat.le_add_right _ _
  rw [List.cons_append, readYear.readUnspaced, if_pos digit, read]

theorem solid_year (year : Int) : Solid (YearText year) := by
  rintro text (number | writes | writes)
  · exact solid_digits number.writes
  · exact ⟨_, _, rfl, rfl⟩
  · exact ⟨_, _, rfl, rfl⟩

theorem readYear_sound (read : readYear text = some (year, rest)) :
    ∃ written, YearText year written ∧ Text.trimStart text = written ++ rest := by
  unfold readYear at read
  split at read
  all_goals
    rename_i trimmed
    rw [Option.map_eq_some_iff] at read
    obtain ⟨⟨n, following⟩, digits, same⟩ := read
    obtain ⟨rfl, rfl⟩ := Prod.mk.inj same
  case h_1 =>
    obtain ⟨written, writes, rfl⟩ := readUnspaced_sound digits
    exact ⟨_, .before writes, trimmed⟩
  case h_2 =>
    obtain ⟨written, writes, rfl⟩ := readUnspaced_sound digits
    exact ⟨_, .after writes, trimmed⟩
  case h_3 =>
    obtain ⟨written, number, again⟩ := readNumber_sound digits
    rw [Text.trimStart_eq_self (Text.trimStart_head text)] at again
    exact ⟨written, .plain number, again⟩

theorem readYear_spaced (spaced : Spaced (YearText year) written) (ends : Ends rest) :
    readYear (written ++ rest) = some (year, rest) := by
  obtain ⟨text, isYear, trimmed⟩ := exists_trimmed (solid_year year) spaced rest
  unfold readYear
  rw [trimmed]
  cases isYear with
  | before writes => simp only [List.cons_append, readUnspaced_written writes ends, Option.map_some]
  | after writes => simp only [List.cons_append, readUnspaced_written writes ends, Option.map_some]
  | @plain n text number =>
      obtain ⟨c, more, rfl, solid⟩ := solid_digits number.writes
      have digit := number.writes.digits c List.mem_cons_self
      have read : readNumber 4 (c :: more ++ rest) = some (n, rest) :=
        readNumber_trimmed number ends (Text.trimStart_eq_self (by simpa using solid))
      split
      · rename_i same
        rw [(List.cons.inj same).1] at digit
        contradiction
      · rename_i same
        rw [(List.cons.inj same).1] at digit
        contradiction
      · rw [read, Option.map_some]

/-! Marks -/

theorem readMark_sound (read : readMark mark text = some rest) :
    Text.trimStart text = [mark] ++ rest := by
  unfold readMark at read
  split at read
  · rename_i trimmed
    split at read
    · rename_i same
      rw [trimmed, same, Option.some.inj read, List.singleton_append]
    · contradiction
  · contradiction

theorem exists_mark (read : readMark mark text = some rest) :
    ∃ stop, Spaced (· = [mark]) stop ∧ text = stop ++ rest :=
  exists_spaced rfl (readMark_sound read)

theorem readMark_spaced (solid : isBlank mark = false) (spaced : Spaced (· = [mark]) written) (rest : Text) :
    readMark mark (written ++ rest) = some rest := by
  have alone : Solid (· = [mark]) := by
    rintro _ rfl
    exact ⟨mark, [], rfl, solid⟩
  obtain ⟨_, rfl, trimmed⟩ := exists_trimmed alone spaced rest
  simp only [readMark, trimmed, List.singleton_append, ↓reduceIte]

/-! Fractions -/

theorem value_kept (each : ∀ c ∈ text, c.isDigit = true) :
    Decimal.value (text.take 9 ++ List.replicate (9 - (text.take 9).length) '0') =
      Decimal.value text * 10 ^ 9 / 10 ^ text.length := by
  rw [Decimal.value_append, Decimal.value_zeros, List.length_replicate, Nat.add_zero]
  rcases Nat.le_total text.length 9 with short | long
  · rw [List.take_of_length_le short]
    have parts : 10 ^ 9 = 10 ^ (9 - text.length) * 10 ^ text.length := by
      rw [← pow_add, Nat.sub_add_cancel short]
    rw [parts, ← Nat.mul_assoc, Nat.mul_div_cancel _ (by positivity)]
  · have kept : (text.take 9).length = 9 := by rw [List.length_take, Nat.min_eq_left long]
    have dropped : Decimal.value (text.drop 9) < 10 ^ (text.drop 9).length :=
      Decimal.value_lt fun c member => each c (List.mem_of_mem_drop member)
    have whole := Decimal.value_append (text.take 9) (text.drop 9)
    have parts : 10 ^ text.length = 10 ^ (text.drop 9).length * 10 ^ 9 := by
      rw [← pow_add, List.length_drop, Nat.sub_add_cancel long]
    rw [List.take_append_drop] at whole
    rw [kept, Nat.sub_self, pow_zero, Nat.mul_one, parts, Nat.mul_div_mul_right _ _ (by positivity), whole,
      Nat.mul_comm, Nat.mul_add_div (by positivity), Nat.div_eq_of_lt dropped, Nat.add_zero]

theorem readFraction_sound (read : readFraction text = some (n, rest)) :
    ∃ written, FractionText n written ∧ text = written ++ rest := by
  unfold readFraction at read
  split at read
  · rename_i digits
    dsimp only at read
    split at read
    · contradiction
    · rename_i something
      have each : ∀ c ∈ digits.takeWhile Char.isDigit, c.isDigit = true := fun _ => List.mem_takeWhile_imp
      simp only [Option.some.injEq, Prod.mk.injEq, value_kept each] at read
      obtain ⟨rfl, rfl⟩ := read
      refine ⟨_, .digits ⟨something, each, rfl⟩, ?_⟩
      rw [List.cons_append, List.prefix_iff_eq_append.mp (List.takeWhile_prefix Char.isDigit)]
  · obtain ⟨rfl, rfl⟩ := Prod.mk.inj (Option.some.inj read)
    exact ⟨[], .none, rfl⟩

theorem readFraction_written (isFraction : FractionText n written) (ends : Ends rest)
    (noPoint : ∀ c ∈ rest.head?, c ≠ '.') : readFraction (written ++ rest) = some (n, rest) := by
  cases isFraction with
  | none =>
      unfold readFraction
      split
      · rename_i same
        rw [List.nil_append] at same
        rw [same] at noPoint
        exact absurd rfl (noPoint '.' rfl)
      · rfl
  | @digits n text writes =>
      have run := Decimal.takeWhile_digits writes.digits ends
      simp only [readFraction, List.cons_append, run, if_neg writes.nonempty, value_kept writes.digits,
        writes.value, List.drop_left]

/-! Offsets -/

theorem readTwoDigits_sound (read : readTwoDigits text = some (n, rest)) :
    ∃ written, Writes n written ∧ written.length = 2 ∧ text = written ++ rest := by
  unfold readTwoDigits at read
  split at read
  · rename_i a b more
    split at read
    · rename_i digits
      obtain ⟨rfl, rfl⟩ := Prod.mk.inj (Option.some.inj read)
      exact ⟨[a, b], ⟨by simp, by simpa using digits, rfl⟩, rfl, rfl⟩
    · contradiction
  · contradiction

theorem readTwoDigits_written (writes : Writes n written) (two : written.length = 2) (rest : Text) :
    readTwoDigits (written ++ rest) = some (n, rest) := by
  obtain ⟨a, b, rfl⟩ := List.length_eq_two.mp two
  have digits : a.isDigit = true ∧ b.isDigit = true := by simpa using writes.digits
  simp only [readTwoDigits, List.cons_append, List.nil_append, if_pos digits, writes.value]

theorem readClock_sound (read : readOffset.readClock text = some (seconds, rest)) :
    ∃ count written, OffsetClock count written ∧ seconds = count ∧ text = written ++ rest := by
  simp only [readOffset.readClock, Option.bind_eq_bind, Option.bind_eq_some_iff, Prod.exists] at read
  obtain ⟨hours, behind, isHours, minutes, following, isMinutes, read⟩ := read
  obtain ⟨hourText, writes, two, rfl⟩ := readTwoDigits_sound isHours
  obtain ⟨minuteText, writesToo, twoToo, split⟩ := readTwoDigits_sound isMinutes
  split at read
  · contradiction
  · rename_i small
    obtain ⟨rfl, rfl⟩ := Prod.mk.inj (Option.some.inj read)
    have isGap : ∀ c ∈ behind.takeWhile fun c => c == ':' || isBlank c, (c == ':' || isBlank c) = true :=
      fun _ => List.mem_takeWhile_imp
    refine ⟨_, _, .mk writes two isGap writesToo twoToo (Nat.lt_of_not_le small), rfl, ?_⟩
    rw [List.append_assoc, List.append_assoc, ← split, List.takeWhile_append_dropWhile]

theorem readClock_written {count : Nat} (isClock : OffsetClock count written) (rest : Text) :
    readOffset.readClock (written ++ rest) = some ((count : Int), rest) := by
  cases isClock with
  | @mk hours minutes hourText gap minuteText isHours twoHours isGap isMinutes twoMinutes small =>
      obtain ⟨c, more, rfl, solid⟩ := solid_digits isMinutes
      have digit := isMinutes.digits c List.mem_cons_self
      have noColon : c ≠ ':' := by
        rintro rfl
        contradiction
      have behind : (gap ++ (c :: more ++ rest)).dropWhile (fun c => c == ':' || isBlank c) =
          c :: more ++ rest := by
        rw [List.dropWhile_append_of_pos isGap, List.cons_append,
          List.dropWhile_cons_of_neg (by simp [noColon, solid])]
      simp only [readOffset.readClock, List.append_assoc, readTwoDigits_written isHours twoHours, behind,
        readTwoDigits_written isMinutes twoMinutes, Option.bind_eq_bind, Option.bind_some,
        if_neg (Nat.not_le.mpr small), Option.pure_def]

theorem readOffset_sound (read : readOffset text = some (seconds, rest)) :
    ∃ written, OffsetText seconds written ∧ text = written ++ rest := by
  unfold readOffset at read
  split at read
  · obtain ⟨rfl, rfl⟩ := Prod.mk.inj (Option.some.inj read)
    exact ⟨_, .zulu (.inl rfl), rfl⟩
  · obtain ⟨rfl, rfl⟩ := Prod.mk.inj (Option.some.inj read)
    exact ⟨_, .zulu (.inr rfl), rfl⟩
  · split_ifs at read with isName isAhead isBehind
    · obtain ⟨rfl, rfl⟩ := Prod.mk.inj (Option.some.inj read)
      exact ⟨_, .name isName, rfl⟩
    · obtain ⟨count, written, isClock, rfl, whole⟩ := readClock_sound read
      exact ⟨_, .ahead isClock, by rw [isAhead, whole, List.cons_append]⟩
    · rw [Option.map_eq_some_iff] at read
      obtain ⟨⟨ahead, following⟩, clock, same⟩ := read
      obtain ⟨rfl, rfl⟩ := Prod.mk.inj same
      obtain ⟨count, written, isClock, rfl, whole⟩ := readClock_sound clock
      exact ⟨_, .behind isBehind isClock, by rw [whole, List.cons_append]⟩
  · contradiction

/-- The name of UTC begins with a letter in either case, and with nothing else that is looked for. -/
theorem of_toLower_u {c : Char} (lowered : c.toLower = 'u') :
    isBlank c = false ∧ c.isDigit = false ∧ c ≠ '.' ∧ c ≠ 'Z' ∧ c ≠ 'z' := by
  have same : (isBlank c.toLower, c.toLower.isDigit, c.toLower == '.', c.toLower == 'Z' || c.toLower == 'z') =
      (isBlank c, c.isDigit, c == '.', c == 'Z' || c == 'z') :=
    @apply_toLower _ (fun c => (isBlank c, c.isDigit, c == '.', c == 'Z' || c == 'z')) (by decide) c
  have plain : (isBlank 'u', 'u'.isDigit, 'u' == '.', 'u' == 'Z' || 'u' == 'z') = (false, false, false, false) := by
    decide
  rw [lowered, plain] at same
  simp only [Prod.mk.injEq, Bool.false_eq, Bool.or_eq_false_iff, beq_eq_false_iff_ne] at same
  exact same

theorem offset_head (isOffset : OffsetText seconds text) :
    ∃ c rest, text = c :: rest ∧ isBlank c = false ∧ c.isDigit = false ∧ c ≠ '.' := by
  cases isOffset with
  | zulu isZulu => rcases isZulu with rfl | rfl <;> exact ⟨_, _, rfl, by decide⟩
  | name isName =>
      obtain ⟨blank, digit, point, _⟩ := of_toLower_u (List.cons.inj isName).1
      exact ⟨_, _, rfl, blank, digit, point⟩
  | ahead isClock => exact ⟨_, _, rfl, by decide⟩
  | behind isSign isClock => rcases isSign with rfl | rfl <;> exact ⟨_, _, rfl, by decide⟩

theorem offsetClock_cons {count : Nat} (isClock : OffsetClock count written) :
    ∃ t c more, written = t :: c :: more := by
  cases isClock with
  | mk _ two =>
      obtain ⟨t, c, rfl⟩ := List.length_eq_two.mp two
      exact ⟨t, c, _, rfl⟩

/-- Behind a character that begins neither the letter nor the name of UTC, hours and minutes are read. -/
theorem readOffset_sign {sign : Char} (isSign : sign = '+' ∨ sign = '-' ∨ sign = '\u2212') (t c : Char)
    (more : Text) : readOffset (sign :: t :: c :: more) =
      if sign = '+' then readOffset.readClock (t :: c :: more)
      else (readOffset.readClock (t :: c :: more)).map fun (seconds, rest) => (-seconds, rest) := by
  have noName : Text.lower [sign, t, c] ≠ ['u', 't', 'c'] := by
    intro same
    have letter : sign.toLower = 'u' := (List.cons.inj same).1
    rcases isSign with rfl | rfl | rfl <;> revert letter <;> decide
  rcases isSign with rfl | rfl | rfl <;> simp [readOffset, noName]

theorem readOffset_written (isOffset : OffsetText seconds written) (rest : Text) :
    readOffset (written ++ rest) = some (seconds, rest) := by
  cases isOffset with
  | zulu isZulu => rcases isZulu with rfl | rfl <;> rfl
  | @name u t c isName =>
      obtain ⟨_, _, _, notUpper, notLower⟩ := of_toLower_u (List.cons.inj isName).1
      simp only [List.cons_append, List.nil_append]
      rw [readOffset, if_pos isName]
      · exact notUpper
      · exact notLower
  | ahead isClock =>
      have read := readClock_written isClock rest
      obtain ⟨t, c, more, rfl⟩ := offsetClock_cons isClock
      exact (readOffset_sign (.inl rfl) t c (more ++ rest)).trans read
  | @behind _ _ sign isSign isClock =>
      have read := readClock_written isClock rest
      obtain ⟨t, c, more, rfl⟩ := offsetClock_cons isClock
      have noPlus : sign ≠ '+' := by rcases isSign with rfl | rfl <;> decide
      refine (readOffset_sign (.inr isSign) t c (more ++ rest)).trans ?_
      rw [if_neg noPlus]
      exact congrArg (Option.map fun (seconds, rest) => (-seconds, rest)) read

/-! Dates and times of day -/

/-- What holds of blanks and of the first character that is written holds of the first character
after all. -/
theorem first_spaced {language : Text → Prop} {property : Char → Prop}
    (blanks : ∀ c, isBlank c = true → property c)
    (first : ∀ text, language text → ∃ c rest, text = c :: rest ∧ property c)
    (spaced : Spaced language written) (rest : Text) : ∀ c ∈ (written ++ rest).head?, property c := by
  cases spaced with
  | @mk front text blank isWritten =>
      cases front with
      | nil =>
          obtain ⟨c, more, rfl, holds⟩ := first text isWritten
          simpa using holds
      | cons c front => simpa using blanks c (blank c List.mem_cons_self)

theorem isDigit_of_isBlank {c : Char} (blank : isBlank c = true) : c.isDigit = false := by
  rw [← Bool.not_eq_true]
  intro digit
  rw [isBlank_of_isDigit digit] at blank
  contradiction

theorem ends_mark (noDigit : mark.isDigit = false) (spaced : Spaced (· = [mark]) written) (rest : Text) :
    Ends (written ++ rest) := by
  refine first_spaced (fun _ => isDigit_of_isBlank) ?_ spaced rest
  rintro _ rfl
  exact ⟨mark, [], rfl, noDigit⟩

theorem ends_offset (spaced : Spaced (OffsetText seconds) written) (rest : Text) :
    Ends (written ++ rest) ∧ ∀ c ∈ (written ++ rest).head?, c ≠ '.' := by
  constructor
  · refine first_spaced (fun _ => isDigit_of_isBlank) (fun text isOffset => ?_) spaced rest
    obtain ⟨c, more, same, _, noDigit, _⟩ := offset_head isOffset
    exact ⟨c, more, same, noDigit⟩
  · refine first_spaced ?_ (fun text isOffset => ?_) spaced rest
    · rintro _ blank rfl
      contradiction
    · obtain ⟨c, more, same, _, _, noPoint⟩ := offset_head isOffset
      exact ⟨c, more, same, noPoint⟩

theorem ofParts?_eq_some_iff {stamp : Timestamp} {instant : Instant} :
    ofParts? stamp.date stamp.hour stamp.minute stamp.second stamp.nanos stamp.offset = some instant ↔
      stamp.Valid ∧ stamp.date.inRange = true ∧ stamp.instant = instant ∧ instant.date.inRange = true := by
  have same : ofParts? stamp.date stamp.hour stamp.minute stamp.second stamp.nanos stamp.offset =
      if stamp.date.onCalendar ∧ stamp.date.inRange ∧ stamp.hour < 24 ∧ stamp.minute < 60 ∧
        stamp.second ≤ 60 ∧ stamp.offset.natAbs < 86400 ∧ stamp.instant.date.inRange then some stamp.instant
      else none := rfl
  rw [same, Option.ite_none_right_eq_some, Date.onCalendar_iff, Option.some.injEq]
  constructor
  · rintro ⟨⟨date, inRange, hour, minute, second, offset, isIn⟩, rfl⟩
    exact ⟨⟨date, hour, minute, second, offset⟩, inRange, rfl, isIn⟩
  · rintro ⟨⟨date, hour, minute, second, offset⟩, inRange, rfl, isIn⟩
    exact ⟨⟨date, inRange, hour, minute, second, offset, isIn⟩, rfl⟩

theorem readDate_sound {date : Date} (read : readDate text = some (date, rest)) :
    ∃ written, DateText date written ∧ text = written ++ rest := by
  simp only [readDate, Option.bind_eq_bind, Option.bind_eq_some_iff, Prod.exists, Option.pure_def,
    Option.some.injEq, Prod.mk.injEq] at read
  obtain ⟨year, _, isYear, _, isStop, month, _, isMonth, _, isStopToo, day, _, isDay, rfl, rfl⟩ := read
  obtain ⟨_, yearText, trimmed⟩ := readYear_sound isYear
  obtain ⟨yearSpaced, spacedYear, rfl⟩ := exists_spaced yearText trimmed
  obtain ⟨stop, spacedStop, rfl⟩ := exists_mark isStop
  obtain ⟨monthText, spacedMonth, rfl⟩ := exists_number isMonth
  obtain ⟨stopToo, spacedStopToo, rfl⟩ := exists_mark isStopToo
  obtain ⟨dayText, spacedDay, rfl⟩ := exists_number isDay
  exact ⟨_, .mk spacedYear spacedStop spacedMonth spacedStopToo spacedDay, by simp only [List.append_assoc]⟩

theorem readDate_written {date : Date} (isDate : DateText date written) (ends : Ends rest) :
    readDate (written ++ rest) = some (date, rest) := by
  cases isDate with
  | mk isYear isStop isMonth isStopToo isDay =>
      have first := fun more => readYear_spaced isYear (ends_mark (by decide) isStop more)
      have second := fun more => readNumber_spaced isMonth (ends_mark (by decide) isStopToo more)
      have third := readNumber_spaced isDay ends
      simp only [readDate, List.append_assoc, first, second, third, Option.bind_eq_bind, Option.bind_some,
        readMark_spaced (by decide) isStop, readMark_spaced (by decide) isStopToo, Option.pure_def]

theorem readDateEnd_eq_some_iff : readDateEnd text = some rest ↔
    ∃ mark, (mark = 'T' ∨ mark = 't' ∨ mark = ' ') ∧ text = mark :: rest := by
  constructor
  · intro read
    unfold readDateEnd at read
    split at read
    case h_4 => contradiction
    all_goals
      rw [← Option.some.inj read]
      exact ⟨_, by decide, rfl⟩
  · rintro ⟨mark, isMark, rfl⟩
    rcases isMark with rfl | rfl | rfl <;> rfl

theorem readTime_sound {hour minute second nanos : Nat}
    (read : readTime text = some ((hour, minute, second, nanos), rest)) :
    ∃ written, ClockText hour minute second nanos written ∧ text = written ++ rest := by
  simp only [readTime, Option.bind_eq_bind, Option.bind_eq_some_iff, Prod.exists, Option.pure_def,
    Option.some.injEq, Prod.mk.injEq] at read
  obtain ⟨hour, _, isHour, _, isStop, minute, _, isMinute, _, isStopToo, second, _, isSecond, nanos, _,
    isFraction, ⟨rfl, rfl, rfl, rfl⟩, rfl⟩ := read
  obtain ⟨hourText, spacedHour, rfl⟩ := exists_number isHour
  obtain ⟨stop, spacedStop, rfl⟩ := exists_mark isStop
  obtain ⟨minuteText, spacedMinute, rfl⟩ := exists_number isMinute
  obtain ⟨stopToo, spacedStopToo, rfl⟩ := exists_mark isStopToo
  obtain ⟨secondText, spacedSecond, rfl⟩ := exists_number isSecond
  obtain ⟨fraction, fractionText, rfl⟩ := readFraction_sound isFraction
  exact ⟨_, .mk spacedHour spacedStop spacedMinute spacedStopToo spacedSecond fractionText,
    by simp only [List.append_assoc]⟩

theorem ends_fraction (isFraction : FractionText n written) (ends : Ends rest) : Ends (written ++ rest) := by
  cases isFraction with
  | none => exact ends
  | digits => simp [Ends]

theorem readTime_written {hour minute second nanos : Nat}
    (isTime : ClockText hour minute second nanos written) (ends : Ends rest)
    (noPoint : ∀ c ∈ rest.head?, c ≠ '.') :
    readTime (written ++ rest) = some ((hour, minute, second, nanos), rest) := by
  cases isTime with
  | mk isHour isStop isMinute isStopToo isSecond isFraction =>
      have first := fun more => readNumber_spaced isHour (ends_mark (by decide) isStop more)
      have second := fun more => readNumber_spaced isMinute (ends_mark (by decide) isStopToo more)
      have third := readNumber_spaced isSecond (ends_fraction isFraction ends)
      simp only [readTime, List.append_assoc, first, second, third, readFraction_written isFraction ends noPoint,
        Option.bind_eq_bind, Option.bind_some, readMark_spaced (by decide) isStop,
        readMark_spaced (by decide) isStopToo, Option.pure_def]

/-! Timestamps -/

theorem solid_offset (offset : Int) : Solid (OffsetText offset) := by
  intro text isOffset
  obtain ⟨c, rest, same, solid, _⟩ := offset_head isOffset
  exact ⟨c, rest, same, solid⟩

theorem ofText?_sound {instant : Instant} (read : ofText? text = some instant) :
    ∃ stamp, Spelled stamp text ∧ stamp.Valid ∧ stamp.date.inRange = true ∧ stamp.instant = instant ∧
      instant.date.inRange = true := by
  simp only [ofText?, Option.bind_eq_bind, Option.bind_eq_some_iff, Prod.exists,
    Option.ite_none_right_eq_some] at read
  obtain ⟨date, _, isDate, _, isEnd, hour, minute, second, nanos, _, isTime, offset, ending, isOffset, atEnd,
    parts⟩ := read
  obtain ⟨dateText, spelledDate, rfl⟩ := readDate_sound isDate
  obtain ⟨mark, isMark, rfl⟩ := readDateEnd_eq_some_iff.mp isEnd
  obtain ⟨clockText, spelledClock, rfl⟩ := readTime_sound isTime
  obtain ⟨_, spelledOffset, trimmed⟩ := readOffset_sound isOffset
  obtain ⟨offsetText, spacedOffset, rfl⟩ := exists_spaced spelledOffset trimmed
  have blank : ∀ c ∈ ending, isBlank c = true := List.dropWhile_eq_nil_iff.mp atEnd
  exact ⟨⟨date, hour, minute, second, nanos, offset⟩, .mk spelledDate isMark spelledClock spacedOffset blank,
    ofParts?_eq_some_iff.mp parts⟩

theorem ofText?_spelled {stamp : Timestamp} (spelled : Spelled stamp text) (valid : stamp.Valid)
    (inRange : stamp.date.inRange = true) (inRangeToo : stamp.instant.date.inRange = true) :
    ofText? text = some stamp.instant := by
  cases spelled with
  | @mk date hour minute second nanos offset mark dateText clockText offsetText ending isDate isMark isClock
      isOffset blank =>
      have parts := ofParts?_eq_some_iff.mpr ⟨valid, inRange, rfl, inRangeToo⟩
      have noDigit : mark.isDigit = false := by rcases isMark with rfl | rfl | rfl <;> decide
      have ends : Ends (mark :: (clockText ++ (offsetText ++ ending))) := by simpa [Ends] using noDigit
      obtain ⟨endsToo, noPoint⟩ := ends_offset isOffset ending
      obtain ⟨written, spelledOffset, trimmed⟩ := exists_trimmed (solid_offset offset) isOffset ending
      have atEnd : Text.trimStart ending = [] := List.dropWhile_eq_nil_iff.mpr blank
      have marked := fun more => readDateEnd_eq_some_iff.mpr ⟨mark, isMark, Eq.refl (mark :: more)⟩
      simp only [ofText?, readDate_written isDate ends, marked, readTime_written isClock endsToo noPoint, trimmed,
        readOffset_written spelledOffset, atEnd, ↓reduceIte, Option.bind_eq_bind, Option.bind_some]
      exact parts

/-- An instant is read from every text that spells a timestamp of it, and from nothing else. -/
theorem ofText?_eq_some_iff {instant : Instant} : ofText? text = some instant ↔
    ∃ stamp, Spelled stamp text ∧ stamp.Valid ∧ stamp.date.inRange = true ∧ stamp.instant = instant ∧
      instant.date.inRange = true := by
  constructor
  · exact ofText?_sound
  · rintro ⟨stamp, spelled, valid, inRange, rfl, inRangeToo⟩
    exact ofText?_spelled spelled valid inRange inRangeToo

end Instant

end CuratedHistory
