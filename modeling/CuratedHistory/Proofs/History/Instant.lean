import CuratedHistory.Proofs.History.Timestamp

namespace CuratedHistory

/-! The text of an instant spells the timestamp that a clock in UTC shows then. It is read back as
the instant, and no other instants are read from any text. -/

open Decimal (writes_padded length_padded)

namespace Timestamp

variable {stamp : Timestamp} {width n : Nat} {date : Date} {text : Text}

theorem instant_of_usual (usual : stamp.second ≠ 60) : stamp.instant =
    ⟨stamp.date.toDays * Instant.secondsPerDay +
      (stamp.hour * 3600 + stamp.minute * 60 + stamp.second : Nat) - stamp.offset, stamp.nanos⟩ := by
  rw [instant, if_neg usual, Nat.sub_zero, Nat.zero_mul, Nat.add_zero]

theorem instant_of_leap (leap : stamp.second = 60) : stamp.instant =
    ⟨stamp.date.toDays * Instant.secondsPerDay + (stamp.hour * 3600 + stamp.minute * 60 + 59 : Nat) -
      stamp.offset, stamp.nanos + Instant.nanosPerSecond⟩ := by
  rw [instant, if_pos leap, leap, Nat.one_mul]

/-! What is printed is spelled -/

theorem spaced {written : Text → Prop} (isWritten : written text) : Spaced written text :=
  @Spaced.mk written [] text (List.forall_mem_nil _) isWritten

theorem number_padded (less : n < 100) : Spaced (Number 2 n) (Decimal.padded 2 n) :=
  spaced ⟨writes_padded 2 n, (length_padded less).le⟩

theorem yearText_spelled (year : Int) : Spaced (YearText year) (Instant.yearText year) := by
  apply spaced
  unfold Instant.yearText
  split
  · rename_i fourDigits
    have number := YearText.plain ⟨writes_padded 4 year.toNat, (length_padded (by omega)).le⟩
    rwa [Int.toNat_of_nonneg fourDigits.1] at number
  · split
    · have number := YearText.before (writes_padded 4 year.natAbs)
      rwa [show -(year.natAbs : Int) = year by omega] at number
    · have number := YearText.after (writes_padded 4 year.natAbs)
      rwa [show (year.natAbs : Int) = year by omega] at number

theorem dateText_spelled (valid : date.Valid) : DateText date (Instant.dateText date) := by
  obtain ⟨year, month, day⟩ := date
  obtain ⟨⟨firstMonth, lastMonth⟩, firstDay, lastDay⟩ := valid
  have short := Date.monthLength_le year month
  dsimp only at firstMonth lastMonth firstDay lastDay
  obtain ⟨month, rfl⟩ := Int.eq_ofNat_of_zero_le (show 0 ≤ month by omega)
  obtain ⟨day, rfl⟩ := Int.eq_ofNat_of_zero_le (show 0 ≤ day by omega)
  have spelled := DateText.mk (yearText_spelled year) (spaced rfl) (number_padded (show month < 100 by omega))
    (spaced rfl) (number_padded (show day < 100 by omega))
  simpa [Instant.dateText] using spelled

theorem fraction_padded {kept : Nat} (less : n < 10 ^ (width + 1)) (whole : n * 10 ^ 9 / 10 ^ (width + 1) = kept) :
    FractionText kept ('.' :: Decimal.padded (width + 1) n) := by
  have written := FractionText.digits (writes_padded (width + 1) n)
  rwa [length_padded less, whole] at written

theorem fractionText_spelled (less : n < Instant.nanosPerSecond) : FractionText n (Instant.fractionText n) := by
  unfold Instant.nanosPerSecond at less
  unfold Instant.fractionText
  split
  · rename_i zero
    rw [zero]
    exact .none
  split
  · exact fraction_padded (by omega) (by omega)
  split
  · exact fraction_padded (by omega) (by omega)
  · exact fraction_padded (by omega) (by omega)

end Timestamp

namespace Instant

open Timestamp

variable {instant : Instant} {stamp : Timestamp} {text : Text}

/-- What a clock in UTC shows. -/
def utc (instant : Instant) : Timestamp where
  date := instant.date
  hour := instant.hour
  minute := instant.minute
  second := instant.second
  nanos := instant.nanos % nanosPerSecond
  offset := 0

theorem representable_iff : instant.representable = true ↔ instant.date.inRange = true ∧
    (instant.nanos < nanosPerSecond ∨
      instant.nanos < 2 * nanosPerSecond ∧ instant.secondOfDay % 60 = 59) := by
  simp only [representable, Bool.and_eq_true, Bool.or_eq_true, decide_eq_true_eq, beq_iff_eq]

/-- The seconds of the years in range, and the nanoseconds of a second or of a leap second. -/
theorem representable_iff_seconds (instant : Instant) : instant.representable = true ↔
    (-8334601228800 ≤ instant.seconds ∧ instant.seconds ≤ 8210266876799) ∧
      (instant.nanos < nanosPerSecond ∨
        instant.nanos < 2 * nanosPerSecond ∧ instant.seconds % 60 = 59) := by
  have minute : instant.secondOfDay % 60 = 59 ↔ instant.seconds % 60 = 59 := by
    rw [secondOfDay, secondsPerDay]
    omega
  have years : instant.date.inRange = true ↔
      -8334601228800 ≤ instant.seconds ∧ instant.seconds ≤ 8210266876799 := by
    rw [date, Date.inRange_ofDays_iff, secondsPerDay]
    omega
  rw [representable_iff, minute, years]

theorem ofSeconds_eq (seconds : Int) : ofSeconds seconds =
    if -8334601228800 ≤ seconds ∧ seconds ≤ 8210266876799 then ⟨seconds, 0⟩ else epoch := by
  have noNanos : 0 < nanosPerSecond := by decide
  have inRange := representable_iff_seconds ⟨seconds, 0⟩
  rw [and_iff_left (.inl noNanos)] at inRange
  simp only [ofSeconds, inRange]

theorem ofSeconds_representable (seconds : Int) : (ofSeconds seconds).representable = true := by
  rw [ofSeconds]
  split
  · assumption
  · decide

theorem secondOfDay_lt (instant : Instant) : instant.secondOfDay < 86400 := by
  rw [secondOfDay, secondsPerDay]
  omega

/-- The second of the minute is 60 just in a leap second. -/
theorem second_cases (representable : instant.representable = true) :
    (instant.nanos < nanosPerSecond ∧ instant.second = instant.secondOfDay % 60) ∨
      (instant.nanos = instant.nanos % nanosPerSecond + nanosPerSecond ∧ instant.second = 60 ∧
        instant.secondOfDay % 60 = 59) := by
  obtain ⟨_, usual | ⟨leap, last⟩⟩ := representable_iff.mp representable
  · refine .inl ⟨usual, ?_⟩
    rw [second, Nat.div_eq_of_lt usual, Nat.add_zero]
  · rw [second]
    unfold nanosPerSecond at leap ⊢
    omega

theorem utc_valid (representable : instant.representable = true) : instant.utc.Valid where
  date := Date.ofDays_valid _
  hour := Nat.div_lt_of_lt_mul instant.secondOfDay_lt
  minute := Nat.mod_lt _ (by decide)
  second := by
    have bound : instant.second ≤ 60 := by
      rcases second_cases representable with ⟨_, usual⟩ | ⟨_, leap, _⟩ <;> omega
    exact bound
  offset := (by decide : (0 : Int).natAbs < 86400)

theorem instant_utc (representable : instant.representable = true) : instant.utc.instant = instant := by
  have clock : instant.hour * 3600 + instant.minute * 60 + instant.secondOfDay % 60 = instant.secondOfDay := by
    rw [hour, minute]
    omega
  have day : instant.date.toDays * secondsPerDay + (instant.secondOfDay : Int) = instant.seconds := by
    rw [date, Date.toDays_ofDays, secondOfDay, secondsPerDay]
    omega
  rcases second_cases representable with ⟨usual, second⟩ | ⟨leap, second, last⟩
  · have small : instant.second ≠ 60 := by omega
    rw [@instant_of_usual instant.utc small]
    dsimp only [utc]
    rw [second, clock, Int.sub_zero]
    exact congrArg₂ Instant.mk day (Nat.mod_eq_of_lt usual)
  · rw [instant_of_leap second]
    dsimp only [utc]
    rw [← last, clock, Int.sub_zero]
    exact congrArg₂ Instant.mk day leap.symm

theorem text_spelled (representable : instant.representable = true) : Spelled instant.utc instant.text := by
  have valid := utc_valid representable
  have lessNanos : instant.nanos % nanosPerSecond < nanosPerSecond := Nat.mod_lt _ (by decide)
  have clock := ClockText.mk (number_padded (valid.hour.trans (by decide))) (spaced rfl)
    (number_padded (valid.minute.trans (by decide))) (spaced rfl)
    (number_padded (valid.second.trans_lt (by decide))) (fractionText_spelled lessNanos)
  have spelled := Spelled.mk (dateText_spelled valid.date) (.inl rfl) clock (spaced (.zulu (.inl rfl)))
    (List.forall_mem_nil _)
  simpa [Instant.text, utc] using spelled

theorem ofText?_text (representable : instant.representable = true) : ofText? instant.text = some instant := by
  have inRange := (representable_iff.mp representable).1
  exact ofText?_eq_some_iff.mpr ⟨_, text_spelled representable, utc_valid representable, inRange,
    instant_utc representable, inRange⟩

/-! What is read is representable -/

theorem nanos_lt (spelled : Spelled stamp text) : stamp.nanos < nanosPerSecond := by
  have small {n : Nat} {fraction : Text} (isFraction : FractionText n fraction) : n < nanosPerSecond := by
    cases isFraction with
    | none => decide
    | @digits n digits writes =>
        rw [Nat.div_lt_iff_lt_mul (by positivity), nanosPerSecond, Nat.mul_comm]
        exact Nat.mul_lt_mul_of_pos_left writes.lt (by decide)
  cases spelled with
  | mk _ _ isClock _ _ =>
      cases isClock with
      | mk _ _ _ _ _ isFraction => exact small isFraction

/-- Offsets are whole minutes, so that a leap second is one on every clock. -/
theorem offset_minutes (spelled : Spelled stamp text) : stamp.offset % 60 = 0 := by
  have minutes {offset : Int} {offsetText : Text} (isOffset : OffsetText offset offsetText) : offset % 60 = 0 := by
    cases isOffset with
    | zulu => rfl
    | name => rfl
    | ahead isClock =>
        cases isClock
        omega
    | behind _ isClock =>
        cases isClock
        omega
  cases spelled with
  | mk _ _ _ isOffset _ =>
      cases isOffset with
      | mk _ isOffset => exact minutes isOffset

theorem representable_of_spelled (spelled : Spelled stamp text) (inRange : stamp.instant.date.inRange = true) :
    stamp.instant.representable = true := by
  have nanos := nanos_lt spelled
  have minutes := offset_minutes spelled
  rw [representable_iff]
  refine ⟨inRange, ?_⟩
  by_cases leap : stamp.second = 60
  · rw [instant_of_leap leap]
    refine .inr ⟨?_, ?_⟩
    · rw [Nat.two_mul]
      exact Nat.add_lt_add_right nanos _
    · dsimp only [secondOfDay, secondsPerDay]
      omega
  · rw [instant_of_usual leap]
    exact .inl nanos

theorem representable_of_ofText? (read : ofText? text = some instant) : instant.representable = true := by
  obtain ⟨stamp, spelled, _, _, rfl, inRange⟩ := ofText?_eq_some_iff.mp read
  exact representable_of_spelled spelled inRange

end Instant

end CuratedHistory
