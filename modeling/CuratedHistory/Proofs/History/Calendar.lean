import Mathlib
import CuratedHistory.History.Instant

namespace CuratedHistory.Date

/-! The proleptic Gregorian calendar by its rules: how long each month is, and which date comes
after which. Counting days follows these rules over all years, those before the first one as well. -/

variable {date : Date} {year day dayOfYear century group : Int}

/-- Four divides the year, but a hundred does not, or four hundred does. -/
def isLeapYear (year : Int) : Bool :=
  year % 4 == 0 && (year % 100 != 0 || year % 400 == 0)

def monthLength (year month : Int) : Int :=
  if month = 2 then if isLeapYear year then 29 else 28
  else if month = 4 ∨ month = 6 ∨ month = 9 ∨ month = 11 then 30
  else 31

/-- The month is one of the twelve, and the day one of its days. -/
structure Valid (date : Date) : Prop where
  month : 1 ≤ date.month ∧ date.month ≤ 12
  day : 1 ≤ date.day ∧ date.day ≤ monthLength date.year date.month

def tomorrow (date : Date) : Date :=
  if date.day < monthLength date.year date.month then { date with day := date.day + 1 }
  else if date.month < 12 then { date with month := date.month + 1, day := 1 }
  else { year := date.year + 1, month := 1, day := 1 }

theorem isLeapYear_iff : isLeapYear year = true ↔ year % 4 = 0 ∧ (year % 100 ≠ 0 ∨ year % 400 = 0) := by
  simp [isLeapYear]

theorem monthLength_pos (year month : Int) : 1 ≤ monthLength year month := by
  unfold monthLength
  split_ifs <;> decide

theorem monthLength_le (year month : Int) : monthLength year month ≤ 31 := by
  unfold monthLength
  split_ifs <;> decide

theorem tomorrow_valid (valid : date.Valid) : date.tomorrow.Valid := by
  obtain ⟨⟨first, last⟩, start, _⟩ := valid
  unfold tomorrow
  split_ifs with inMonth inYear
  · exact ⟨⟨first, last⟩, Int.le_add_one start, inMonth⟩
  · exact ⟨⟨Int.le_add_one first, inYear⟩, Int.le_refl 1, monthLength_pos _ _⟩
  · exact ⟨⟨Int.le_refl 1, (by decide : (1 : Int) ≤ 12)⟩, Int.le_refl 1, monthLength_pos _ _⟩

/-! Years that begin with March, so that a leap day is the last day of its year -/

/-- The days from the first of March of year 0 to the first of March of a year. -/
def marchDays (year : Int) : Int :=
  365 * year + year / 4 - year / 100 + year / 400

theorem marchDays_succ (year : Int) :
    marchDays (year + 1) = marchDays year + 365 + if isLeapYear (year + 1) = true then 1 else 0 := by
  unfold marchDays
  simp only [isLeapYear_iff]
  split <;> omega

theorem marchDays_mono : Monotone marchDays := by
  refine monotone_int_of_le_succ fun year => ?_
  rw [marchDays_succ]
  split <;> omega

theorem toDays_eq (date : Date) : date.toDays =
    marchDays (if date.month ≤ 2 then date.year - 1 else date.year) +
      ((153 * ((date.month + 9) % 12) + 2) / 5 + date.day - 1) - epochShift := by
  simp only [toDays, marchDays, eraDays]
  omega

theorem toDays_tomorrow (valid : date.Valid) : date.tomorrow.toDays = date.toDays + 1 := by
  obtain ⟨year, month, day⟩ := date
  obtain ⟨⟨first, last⟩, start, length⟩ := valid
  have leap := marchDays_succ (year - 1)
  rw [sub_add_cancel] at leap
  simp only [tomorrow] at *
  split_ifs with inMonth inYear
  · simp only [toDays_eq]
    omega
  · have isLast : day = monthLength year month := by omega
    simp only [toDays_eq, isLast, monthLength]
    -- Only the first of March begins another year here, and only then the leap day counts.
    interval_cases month
    case «2» =>
      simp only [Int.reduceLE, Int.reduceAdd, ↓reduceIte, leap]
      split <;> omega
    all_goals simp; omega
  · have isDecember : month = 12 := by omega
    subst isDecember
    have isLast : day = 31 := by
      simp only [monthLength] at length inMonth
      omega
    simp only [toDays_eq, isLast, Int.reduceLE, ↓reduceIte, add_sub_cancel_right]
    omega

/-- A number of days after the first of March stays in the year that begins there. -/
structure InMarchYear (year dayOfYear : Int) : Prop where
  nonneg : 0 ≤ dayOfYear
  short : dayOfYear ≤ 364 ∨ dayOfYear = 365 ∧ isLeapYear (year + 1) = true

/-- The date that lies a number of days after the first of March. -/
def afterMarch (year dayOfYear : Int) : Date :=
  let monthFromMarch := (5 * dayOfYear + 2) / 153
  let month := if monthFromMarch < 10 then monthFromMarch + 3 else monthFromMarch - 9
  { year := year + (if month ≤ 2 then 1 else 0)
    month
    day := dayOfYear - (153 * monthFromMarch + 2) / 5 + 1 }

namespace InMarchYear

variable (inYear : InMarchYear year dayOfYear)
include inYear

theorem exists_month : ∃ month, month = (5 * dayOfYear + 2) / 153 ∧ 0 ≤ month ∧ month ≤ 11 := by
  obtain ⟨nonneg, short⟩ := inYear
  exact ⟨_, rfl, by omega, by omega⟩

theorem toDays_afterMarch :
    (afterMarch year dayOfYear).toDays = marchDays year + dayOfYear - epochShift := by
  obtain ⟨month, isMonth, first, last⟩ := inYear.exists_month
  simp only [toDays_eq, afterMarch, ← isMonth]
  split_ifs
  · omega
  · rw [add_zero]
    omega
  · rw [add_sub_cancel_right]
    omega
  · omega

theorem afterMarch_valid : (afterMarch year dayOfYear).Valid := by
  obtain ⟨month, isMonth, first, last⟩ := inYear.exists_month
  obtain ⟨nonneg, short⟩ := inYear
  refine ⟨?_, ?_, ?_⟩
  · simp only [afterMarch, ← isMonth]
    split_ifs <;> omega
  · simp only [afterMarch, ← isMonth]
    omega
  · simp only [afterMarch, monthLength, ← isMonth]
    interval_cases month
    case «11» => cases leap : isLeapYear (year + 1) <;> simp [leap] at short ⊢ <;> omega
    all_goals simp; omega

theorem lt_marchDays {later : Int} (less : year < later) : marchDays year + dayOfYear < marchDays later := by
  have next : marchDays year + dayOfYear < marchDays (year + 1) := by
    rw [marchDays_succ]
    rcases inYear.short with short | ⟨short, leap⟩
    · split <;> omega
    · rw [if_pos leap]
      omega
  exact next.trans_le (marchDays_mono less)

/-- A day lies in one year only. -/
theorem unique {other otherDay : Int} (inOther : InMarchYear other otherDay)
    (same : marchDays year + dayOfYear = marchDays other + otherDay) :
    year = other ∧ dayOfYear = otherDay := by
  have nonneg := inYear.nonneg
  have nonnegToo := inOther.nonneg
  rcases lt_trichotomy year other with less | rfl | more
  · have apart := inYear.lt_marchDays less
    omega
  · omega
  · have apart := inOther.lt_marchDays more
    omega

end InMarchYear

theorem exists_afterMarch (valid : date.Valid) :
    ∃ year dayOfYear, InMarchYear year dayOfYear ∧ date = afterMarch year dayOfYear := by
  obtain ⟨year, month, day⟩ := date
  obtain ⟨⟨first, last⟩, start, length⟩ := valid
  simp only [monthLength] at first last start length
  refine ⟨if month ≤ 2 then year - 1 else year, (153 * ((month + 9) % 12) + 2) / 5 + day - 1,
    ⟨by omega, ?_⟩, ?_⟩
  all_goals
    interval_cases month
    case «2» => cases leap : isLeapYear year <;> simp [afterMarch, leap] at length ⊢ <;> omega
    all_goals simp [afterMarch] at length ⊢; omega

/-! Eras of four hundred years -/

/-- The place of a day in an era, by century, by group of four years and by year. A leap day
ends each group, but the last group of a century only in the last century. -/
structure InEra (century group year dayOfYear : Int) : Prop where
  inCentury : 0 ≤ century ∧ century ≤ 3
  inGroup : 0 ≤ group ∧ group ≤ 24
  inYear : 0 ≤ year ∧ year ≤ 3
  nonneg : 0 ≤ dayOfYear
  short : dayOfYear ≤ 364 ∨ dayOfYear = 365 ∧ year = 3 ∧ (group < 24 ∨ century = 3)

theorem exists_inEra (nonneg : 0 ≤ day) (less : day < eraDays) :
    ∃ century group year dayOfYear, InEra century group year dayOfYear ∧
      day = 36524 * century + 1461 * group + 365 * year + dayOfYear := by
  unfold eraDays at less
  obtain ⟨century, isCentury⟩ : ∃ century, century = min 3 (day / 36524) := ⟨_, rfl⟩
  obtain ⟨group, isGroup⟩ : ∃ group, group = (day - 36524 * century) / 1461 := ⟨_, rfl⟩
  obtain ⟨year, isYear⟩ : ∃ year, year = min 3 ((day - 36524 * century - 1461 * group) / 365) := ⟨_, rfl⟩
  refine ⟨century, group, year, day - 36524 * century - 1461 * group - 365 * year, ⟨?_, ?_, ?_, ?_, ?_⟩, ?_⟩
  all_goals omega

namespace InEra

variable (inEra : InEra century group year dayOfYear)
include inEra

/-- Without its leap days an era is years of one length. -/
theorem yearOfEra_eq (place : day = 36524 * century + 1461 * group + 365 * year + dayOfYear) :
    (day - day / 1460 + day / 36524 - day / 146096) / 365 = 100 * century + 4 * group + year := by
  obtain ⟨inCentury, inGroup, inYear, nonneg, short⟩ := inEra
  obtain ⟨extra, isExtra⟩ : ∃ extra, extra = (24 * century + group + 365 * year + dayOfYear) / 1460 :=
    ⟨_, rfl⟩
  have groups : day / 1460 = 25 * century + group + extra := by omega
  by_cases last : day = 146096
  · omega
  · have centuries : day / 36524 = century := by omega
    have eras : day / 146096 = 0 := by omega
    have rest : 0 ≤ dayOfYear - extra ∧ dayOfYear - extra ≤ 364 := by omega
    rw [groups, centuries, eras]
    omega

theorem marchDays_eq (era : Int) : marchDays (100 * century + 4 * group + year + era * 400) =
    era * eraDays + (36524 * century + 1461 * group + 365 * year) := by
  obtain ⟨inCentury, inGroup, inYear, _, _⟩ := inEra
  have groups : (100 * century + 4 * group + year + era * 400) / 4 = 25 * century + group + era * 100 := by
    omega
  have centuries : (100 * century + 4 * group + year + era * 400) / 100 = century + era * 4 := by omega
  have eras : (100 * century + 4 * group + year + era * 400) / 400 = era := by omega
  rw [marchDays, groups, centuries, eras, eraDays]
  omega

theorem inMarchYear (era : Int) : InMarchYear (100 * century + 4 * group + year + era * 400) dayOfYear := by
  obtain ⟨inCentury, inGroup, inYear, nonneg, short⟩ := inEra
  refine ⟨nonneg, ?_⟩
  rw [isLeapYear_iff]
  omega

end InEra

/-! Days and dates -/

/-- Every day lies in a year that begins with March. -/
theorem exists_inMarchYear (days : Int) :
    ∃ year dayOfYear, InMarchYear year dayOfYear ∧ days = marchDays year + dayOfYear - epochShift ∧
      ofDays days = afterMarch year dayOfYear := by
  have nonneg : 0 ≤ (days + epochShift) % eraDays := Int.emod_nonneg _ (by decide)
  have less : (days + epochShift) % eraDays < eraDays := Int.emod_lt_of_pos _ (by decide)
  have shifted := Int.mul_ediv_add_emod (days + epochShift) eraDays
  obtain ⟨century, group, year, dayOfYear, inEra, place⟩ := exists_inEra nonneg less
  have count := inEra.marchDays_eq ((days + epochShift) / eraDays)
  have isYear := inEra.yearOfEra_eq place
  refine ⟨_, dayOfYear, inEra.inMarchYear ((days + epochShift) / eraDays), ?_, ?_⟩
  · rw [count, mul_comm]
    omega
  · have rest : (days + epochShift) % eraDays - (365 * (100 * century + 4 * group + year) +
        (100 * century + 4 * group + year) / 4 - (100 * century + 4 * group + year) / 100) = dayOfYear := by
      have first := inEra.marchDays_eq 0
      have inFirst : (100 * century + 4 * group + year) / 400 = 0 := by
        obtain ⟨inCentury, inGroup, inYear, _, _⟩ := inEra
        omega
      rw [zero_mul, zero_mul, add_zero, marchDays, inFirst] at first
      omega
    simp only [ofDays, isYear, rest]
    rfl

theorem ofDays_valid (days : Int) : (ofDays days).Valid := by
  obtain ⟨year, dayOfYear, inYear, _, isDate⟩ := exists_inMarchYear days
  rw [isDate]
  exact inYear.afterMarch_valid

theorem toDays_ofDays (days : Int) : (ofDays days).toDays = days := by
  obtain ⟨year, dayOfYear, inYear, count, isDate⟩ := exists_inMarchYear days
  rw [isDate, inYear.toDays_afterMarch, count]

theorem ofDays_toDays (valid : date.Valid) : ofDays date.toDays = date := by
  obtain ⟨year, dayOfYear, inYear, rfl⟩ := exists_afterMarch valid
  obtain ⟨other, otherDay, inOther, count, isDate⟩ := exists_inMarchYear (afterMarch year dayOfYear).toDays
  rw [inYear.toDays_afterMarch] at count
  obtain ⟨rfl, rfl⟩ := inYear.unique inOther (by omega)
  exact isDate

theorem onCalendar_iff : date.onCalendar = true ↔ date.Valid := by
  simp only [onCalendar, Bool.and_eq_true, decide_eq_true_eq, beq_iff_eq]
  constructor
  · rintro ⟨_, same⟩
    rw [← same]
    exact ofDays_valid _
  · intro valid
    have short := valid.day.2.trans (monthLength_le _ _)
    exact ⟨⟨⟨valid.month, valid.day.1⟩, short⟩, ofDays_toDays valid⟩

/-- Counting on by one day goes to the next date of the calendar. -/
theorem ofDays_succ (days : Int) : ofDays (days + 1) = (ofDays days).tomorrow := by
  have valid := ofDays_valid days
  rw [← ofDays_toDays (tomorrow_valid valid), toDays_tomorrow valid, toDays_ofDays]

/-! Years in range -/

theorem newYear_mono : Monotone fun year : Int => (Date.mk year 1 1).toDays := by
  intro year later less
  have months := marchDays_mono (Int.sub_le_sub_right less 1)
  simp only [toDays_eq, Int.reduceLE, ↓reduceIte]
  omega

theorem newYear_le_toDays (valid : date.Valid) :
    (Date.mk date.year 1 1).toDays ≤ date.toDays ∧ date.toDays < (Date.mk (date.year + 1) 1 1).toDays := by
  obtain ⟨year, month, day⟩ := date
  obtain ⟨⟨first, last⟩, start, length⟩ := valid
  have short := monthLength_le year month
  have months := marchDays_succ (year - 1)
  rw [sub_add_cancel] at months
  simp only [toDays_eq, Int.reduceLE, ↓reduceIte, add_sub_cancel_right] at *
  split_ifs at * <;> omega

theorem year_le_iff (valid : date.Valid) (year : Int) :
    year ≤ date.year ↔ (Date.mk year 1 1).toDays ≤ date.toDays := by
  obtain ⟨from_, before⟩ := newYear_le_toDays valid
  constructor
  · intro less
    exact (newYear_mono less).trans from_
  · intro less
    by_contra more
    have later : (Date.mk (date.year + 1) 1 1).toDays ≤ (Date.mk year 1 1).toDays := newYear_mono (by omega)
    omega

theorem inRange_ofDays_iff (days : Int) :
    (ofDays days).inRange = true ↔ -96465292 ≤ days ∧ days ≤ 95026236 := by
  have first := year_le_iff (ofDays_valid days) firstYear
  have after := year_le_iff (ofDays_valid days) (lastYear + 1)
  have firstDay : (Date.mk firstYear 1 1).toDays = -96465292 := by decide
  have dayAfter : (Date.mk (lastYear + 1) 1 1).toDays = 95026237 := by decide
  rw [toDays_ofDays, firstDay] at first
  rw [toDays_ofDays, dayAfter] at after
  simp only [inRange, Bool.and_eq_true, decide_eq_true_eq]
  omega

end CuratedHistory.Date
