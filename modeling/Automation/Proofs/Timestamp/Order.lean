import Automation.Proofs.Timestamp.RoundTrip

/-!
The order of timestamps and the order of their texts.

The text of a timestamp starts with what a calendar and a clock show, from the year down to the
microsecond, each part in a fixed number of digits. So texts are in the order of these readings,
whatever the offsets behind them are, and in the order of the points in time only where the offsets
are the same.
-/

namespace Automation.Timestamp

variable {first second : Timestamp}

/-- What a calendar and a clock show of a timestamp, in microseconds from the start of year one. -/
def reading (time : Timestamp) : Int := time.instant + time.offset

/-- The days from the start of year one to the date of a timestamp. -/
def days (time : Timestamp) : Int :=
  daysBeforeYear time.year + daysBeforeMonth time.year time.month + (time.day - 1 : Nat)

theorem reading_eq (time : Timestamp) : time.reading =
    (((time.days * 24 + time.hour) * 60 + time.minute) * 60 + time.second) * perSecond
      + time.microsecond := by
  simp [reading, instant, days]

/-- The bounds of the parts of a timestamp with a text. -/
theorem bounds_of_isValid {time : Timestamp} (valid : time.isValid = true) :
    (1 ≤ time.year ∧ time.year ≤ 9999) ∧ (1 ≤ time.month ∧ time.month ≤ 12) ∧
      (1 ≤ time.day ∧ time.day ≤ daysInMonth time.year time.month ∧ time.day ≤ 31) ∧
      time.hour < 24 ∧ time.minute < 60 ∧ time.second < 60 ∧ time.microsecond < 1000000 := by
  simp only [isValid, Bool.and_eq_true, decide_eq_true_eq] at valid
  obtain ⟨⟨⟨⟨⟨⟨⟨⟨⟨⟨firstYear, lastYear⟩, firstMonth⟩, lastMonth⟩, firstDay⟩, lastDay⟩, hour⟩,
    minute⟩, second⟩, microsecond⟩, -⟩ := valid
  have days := daysInMonth_le time.year time.month
  exact ⟨⟨firstYear, lastYear⟩, ⟨firstMonth, lastMonth⟩, ⟨firstDay, lastDay, lastDay.trans days⟩,
    hour, minute, second, microsecond⟩

/-- The number of days of a year. -/
def daysInYear (year : Int) : Nat := if isLeapYear year then 366 else 365

theorem isLeapYear_iff {year : Int} :
    isLeapYear year = true ↔ year % 4 = 0 ∧ (year % 100 ≠ 0 ∨ year % 400 = 0) := by
  simp [isLeapYear]

theorem daysBeforeYear_succ (year : Int) :
    daysBeforeYear (year + 1) = daysBeforeYear year + daysInYear year := by
  have leap := @isLeapYear_iff year
  simp only [daysBeforeYear, daysInYear]
  split
  · rename_i isLeap
    have divisible := leap.mp isLeap
    omega
  · rename_i notLeap
    rw [leap] at notLeap
    omega

theorem daysBeforeYear_mono {year later : Int} (le : year ≤ later) :
    daysBeforeYear year ≤ daysBeforeYear later := by
  simp only [daysBeforeYear]
  omega

theorem daysBeforeMonth_succ (year : Int) {month : Nat} (positive : 1 ≤ month) :
    daysBeforeMonth year (month + 1) = daysBeforeMonth year month + daysInMonth year month := by
  obtain ⟨past, rfl⟩ := Nat.exists_eq_add_of_le' positive
  simp [daysBeforeMonth, List.range_succ]

theorem daysBeforeMonth_mono (year : Int) {month later : Nat} (positive : 1 ≤ month)
    (le : month ≤ later) : daysBeforeMonth year month ≤ daysBeforeMonth year later := by
  induction later, le using Nat.le_induction with
  | base => exact Nat.le_refl _
  | succ later le inductionHypothesis =>
      rw [daysBeforeMonth_succ year (positive.trans le)]
      omega

theorem daysBeforeMonth_end (year : Int) : daysBeforeMonth year 13 = daysInYear year := by
  have months : List.range (13 - 1) = [0, 1, 2, 3, 4, 5, 6, 7, 8, 9, 10, 11] := by decide
  cases leap : isLeapYear year <;>
    simp [daysBeforeMonth, daysInYear, months, daysInMonth, leap]

/-- The last day of a year comes before the first one of the next. -/
theorem dayOfYear_lt {time : Timestamp} (valid : time.isValid = true) :
    daysBeforeMonth time.year time.month + (time.day - 1) < daysInYear time.year := by
  have bounds := bounds_of_isValid valid
  have upTo := @daysBeforeMonth_mono time.year (time.month + 1) 13 (by omega) (by omega)
  rw [daysBeforeMonth_succ time.year (by omega), daysBeforeMonth_end] at upTo
  omega

/-- The parts that a calendar shows of a timestamp, the year first. -/
def dateParts (time : Timestamp) : List Nat := [time.year.toNat, time.month, time.day]

/-- The parts that a clock shows of a timestamp, the hour first. -/
def timeParts (time : Timestamp) : List Nat :=
  [time.hour, time.minute, time.second, time.microsecond]

theorem days_lt_of_dateParts_lt (valid : first.isValid = true) (alsoValid : second.isValid = true)
    (before : first.dateParts < second.dateParts) : first.days < second.days := by
  have firstEnd := dayOfYear_lt valid
  have bounds := bounds_of_isValid valid
  have otherBounds := bounds_of_isValid alsoValid
  simp only [dateParts, List.cons_lt_cons_iff, List.not_lt_nil, and_false, or_false] at before
  simp only [days]
  rcases before with year | ⟨year, month | ⟨month, day⟩⟩
  · have next := daysBeforeYear_mono (show first.year + 1 ≤ second.year by omega)
    rw [daysBeforeYear_succ] at next
    omega
  · have same : first.year = second.year := by omega
    have next := @daysBeforeMonth_mono second.year (first.month + 1) second.month (by omega)
      (by omega)
    rw [daysBeforeMonth_succ _ (by omega)] at next
    rw [same] at bounds ⊢
    omega
  · have same : first.year = second.year := by omega
    rw [same, month]
    omega

theorem days_eq_of_dateParts_eq (valid : first.isValid = true) (alsoValid : second.isValid = true)
    (same : first.dateParts = second.dateParts) : first.days = second.days := by
  have bounds := bounds_of_isValid valid
  have otherBounds := bounds_of_isValid alsoValid
  simp only [dateParts, List.cons.injEq, and_true] at same
  have year : first.year = second.year := by omega
  rw [days, days, year, same.2.1, same.2.2]

theorem timeParts_lt_iff (valid : first.isValid = true) (alsoValid : second.isValid = true)
    (same : first.days = second.days) :
    first.timeParts < second.timeParts ↔ first.reading < second.reading := by
  have bounds := bounds_of_isValid valid
  have otherBounds := bounds_of_isValid alsoValid
  simp only [timeParts, List.cons_lt_cons_iff, List.not_lt_nil, and_false, or_false, reading_eq,
    same, perSecond]
  omega

theorem reading_lt_of_days_lt (valid : first.isValid = true) (alsoValid : second.isValid = true)
    (before : first.days < second.days) : first.reading < second.reading := by
  have bounds := bounds_of_isValid valid
  have otherBounds := bounds_of_isValid alsoValid
  simp only [reading_eq, perSecond]
  omega

/-- An earlier reading shows in the date, or on the same date in the time of day. -/
theorem parts_lt_of_reading_lt (valid : first.isValid = true) (alsoValid : second.isValid = true)
    (before : first.reading < second.reading) : first.dateParts < second.dateParts ∨
      first.dateParts = second.dateParts ∧ first.timeParts < second.timeParts := by
  by_cases date : first.dateParts < second.dateParts
  · exact .inl date
  · by_cases back : second.dateParts < first.dateParts
    · have after := reading_lt_of_days_lt alsoValid valid
        (days_lt_of_dateParts_lt alsoValid valid back)
      omega
    · have same : first.dateParts = second.dateParts := List.le_antisymm back date
      exact .inr ⟨same, (timeParts_lt_iff valid alsoValid
        (days_eq_of_dateParts_eq valid alsoValid same)).mpr before⟩

theorem digitChar_lt {x y : Nat} (small : y < 10) (before : x < y) :
    Nat.digitChar x < Nat.digitChar y := by
  have all : ∀ x y : Fin 10, x < y → Nat.digitChar x < Nat.digitChar y := by decide
  exact all ⟨x, before.trans small⟩ ⟨y, small⟩ before

/-- Numbers in as many digits are in the order of their texts, and what follows decides between
equal ones. -/
theorem padded_append_lt {width x y : Nat} (small : x < 10 ^ width) (alsoSmall : y < 10 ^ width)
    {front back : List Char} (before : x < y ∨ x = y ∧ front < back) :
    padded width x ++ front < padded width y ++ back := by
  induction width generalizing x y front back with
  | zero =>
      obtain impossible | ⟨_, further⟩ := before
      · rw [Nat.pow_zero] at alsoSmall
        omega
      · exact further
  | succ width inductionHypothesis =>
      rw [Nat.pow_succ] at small alsoSmall
      rw [padded, padded, List.append_assoc, List.append_assoc]
      apply inductionHypothesis (by omega) (by omega)
      have digits : x / 10 < y / 10 ∨ x / 10 = y / 10 ∧
          (x % 10 < y % 10 ∨ x % 10 = y % 10 ∧ front < back) := by
        obtain less | ⟨rfl, further⟩ := before
        · omega
        · exact .inr ⟨rfl, .inr ⟨rfl, further⟩⟩
      obtain tens | ⟨tens, units | ⟨units, further⟩⟩ := digits
      · exact .inl tens
      · exact .inr ⟨tens, List.cons_lt_cons_iff.mpr (.inl (digitChar_lt (by omega) units))⟩
      · exact .inr ⟨tens, List.cons_lt_cons_iff.mpr (.inr ⟨by rw [units], further⟩)⟩

/-- A part with a separator behind it. -/
theorem part_lt {width x y : Nat} (small : x < 10 ^ width) (alsoSmall : y < 10 ^ width) (c : Char)
    {front back : List Char} (before : x < y ∨ x = y ∧ front < back) :
    padded width x ++ c :: front < padded width y ++ c :: back :=
  padded_append_lt small alsoSmall
    (before.imp_right (.imp_right fun further => List.cons_lt_cons_iff.mpr (.inr ⟨rfl, further⟩)))

/-- The sign of an offset comes before the point of a fraction. -/
theorem fraction_lt {x y : Nat} (alsoSmall : y < 10 ^ 6) (before : x < y) (offset other : Int) :
    fractionText x ++ offsetText offset < fractionText y ++ offsetText other := by
  have present : ¬y = 0 := by omega
  rw [fractionText, fractionText, if_neg present]
  split
  · rw [List.nil_append, offsetText]
    apply List.cons_lt_cons_iff.mpr
    left
    split <;> decide
  · apply List.cons_lt_cons_iff.mpr
    exact .inr ⟨rfl, padded_append_lt (before.trans alsoSmall) alsoSmall (.inl before)⟩

theorem timeText_lt (valid : first.isValid = true) (alsoValid : second.isValid = true)
    (before : first.timeParts < second.timeParts) (offset other : Int) :
    first.timeText ++ offsetText offset < second.timeText ++ offsetText other := by
  have bounds := bounds_of_isValid valid
  have otherBounds := bounds_of_isValid alsoValid
  simp only [timeParts, List.cons_lt_cons_iff, List.not_lt_nil, and_false, or_false] at before
  simp only [timeText, List.append_assoc, List.cons_append]
  apply part_lt (by omega) (by omega)
  refine before.imp_right (.imp_right fun before => ?_)
  apply part_lt (by omega) (by omega)
  refine before.imp_right (.imp_right fun before => ?_)
  apply padded_append_lt (by omega) (by omega)
  exact before.imp_right (.imp_right fun before => fraction_lt (by omega) before offset other)

/-- Of two timestamps the one with the earlier reading has the earlier text. -/
theorem text_lt_of_reading_lt (valid : first.isValid = true) (alsoValid : second.isValid = true)
    (before : first.reading < second.reading) : first.text < second.text := by
  have bounds := bounds_of_isValid valid
  have otherBounds := bounds_of_isValid alsoValid
  have parts := parts_lt_of_reading_lt valid alsoValid before
  have time (later : first.timeParts < second.timeParts) :=
    timeText_lt valid alsoValid later first.offset second.offset
  simp only [dateParts, List.cons_lt_cons_iff, List.cons.injEq, List.not_lt_nil, and_false,
    or_false, and_true] at parts
  simp only [text_eq, dateText, List.append_assoc, List.cons_append]
  apply part_lt (by omega) (by omega)
  have year : first.year.toNat < second.year.toNat ∨ first.year.toNat = second.year.toNat ∧
      (first.month < second.month ∨ first.month = second.month ∧
        (first.day < second.day ∨ first.day = second.day ∧
          first.timeParts < second.timeParts)) := by
    grind
  refine year.imp_right (.imp_right fun month => ?_)
  apply part_lt (by omega) (by omega)
  refine month.imp_right (.imp_right fun day => ?_)
  apply part_lt (by omega) (by omega)
  exact day.imp_right (.imp_right time)

/-- Of two timestamps the one whose text is not the earlier one has not the earlier reading. -/
theorem reading_le_of_not_text_lt (valid : first.isValid = true)
    (alsoValid : second.isValid = true) (notBefore : ¬second.text < first.text) :
    first.reading ≤ second.reading := by
  by_contra after
  exact notBefore (text_lt_of_reading_lt alsoValid valid (not_le.mp after))

/-- What is read back of a timestamp shows the same. -/
theorem reading_restored (time : Timestamp) : time.restored.reading = time.reading := by
  simp [reading, instant, restored]

/-- Of timestamps with one offset, the order of the readings is the order in time. -/
theorem instant_le_iff (same : first.offset = second.offset) :
    first.instant ≤ second.instant ↔ first.reading ≤ second.reading := by
  rw [reading, reading, same]
  omega

end Automation.Timestamp
