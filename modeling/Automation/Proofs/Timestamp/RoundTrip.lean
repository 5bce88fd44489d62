import Automation.Proofs.Text.Runs
import Automation.Proofs.Fallible
import Automation.Timestamp.Reader
import Mathlib.Data.Nat.Digits.Defs

/-!
The text of a timestamp is read back.

A date is ten characters, and a clock reads the same parts that it shows. Only an offset below a
second is lost: it is written, and it is read as none.
-/

namespace Automation.Timestamp

theorem takeNumber?_add (first second value : Nat) (text : List Char) :
    takeNumber? (first + second) value text =
      (takeNumber? first value text).bind fun found => takeNumber? second found.1 found.2 := by
  induction first generalizing value text with
  | zero => simp [takeNumber?]
  | succ first inductionHypothesis =>
      rw [Nat.succ_add]
      cases text with
      | nil => rfl
      | cons c rest =>
          rw [takeNumber?, takeNumber?]
          split
          · exact inductionHypothesis _ _
          · rfl

/-- Digits are read as the number that they show. -/
theorem takeNumber?_padded (width value number : Nat) (rest : List Char) :
    takeNumber? width value (padded width number ++ rest) =
      some (10 ^ width * value + number % 10 ^ width, rest) := by
  induction width generalizing number rest with
  | zero => simp [takeNumber?, padded, Nat.mod_one]
  | succ width inductionHypothesis =>
      have small : number % 10 < 10 := Nat.mod_lt number (by decide)
      rw [padded, List.append_assoc, takeNumber?_add, inductionHypothesis]
      simp only [Option.bind_some, List.singleton_append, takeNumber?, Nat.isDigit_digitChar, small,
        decide_true, if_true, Nat.toNat_digitChar_of_lt_ten small]
      congr 2
      have shift : number % 10 ^ (width + 1) = number % 10 + 10 * (number / 10 % 10 ^ width) := by
        rw [Nat.pow_succ, Nat.mul_comm, Nat.mod_mul]
      have zero : '0'.toNat = 48 := rfl
      rw [shift, Nat.pow_succ]
      grind

theorem takeNumber?_padded_of_lt {width number : Nat} (small : number < 10 ^ width)
    (rest : List Char) :
    takeNumber? width 0 (padded width number ++ rest) = some (number, rest) := by
  rw [takeNumber?_padded, Nat.mod_eq_of_lt small, Nat.mul_zero, Nat.zero_add]

theorem isDigit_of_mem_padded {width number : Nat} :
    ∀ c ∈ padded width number, c.isDigit = true := by
  induction width generalizing number with
  | zero => exact nofun
  | succ width inductionHypothesis =>
      intro c member
      rcases List.mem_append.mp member with earlier | last
      · exact inductionHypothesis c earlier
      · rw [List.mem_singleton.mp last]
        exact Nat.isDigit_digitChar.trans (decide_eq_true (Nat.mod_lt number (by decide)))

@[simp]
theorem length_padded (width number : Nat) : (padded width number).length = width := by
  induction width generalizing number with
  | zero => rfl
  | succ width inductionHypothesis => simp [padded, inductionHypothesis]

section

variable {number count : Nat} {after : List Char}

theorem readParts?_end (small : number < 10 ^ 2) :
    readParts? true (count + 1) (padded 2 number) = some ⟨[number], 0, true⟩ := by
  have taken := takeNumber?_padded_of_lt small []
  rw [List.append_nil] at taken
  simp [readParts?, taken]

theorem readParts?_colon (small : number < 10 ^ 2) (further : after ≠ []) :
    readParts? true (count + 1) (padded 2 number ++ ':' :: after) =
      (readParts? true count after).map fun others =>
        { others with parts := number :: others.parts } := by
  obtain ⟨c, others, rfl⟩ := List.exists_cons_of_ne_nil further
  simp only [readParts?, takeNumber?_padded_of_lt small]
  cases found : readParts? true count (c :: others) <;> simp [found]

theorem readParts?_point (small : number < 10 ^ 2) (further : after ≠ []) :
    readParts? true (count + 1) (padded 2 number ++ '.' :: after) =
      (readFraction? after).map fun others =>
        { others with parts := number :: others.parts } := by
  obtain ⟨c, others, rfl⟩ := List.exists_cons_of_ne_nil further
  simp only [readParts?, takeNumber?_padded_of_lt small]
  cases found : readFraction? (c :: others) <;> simp [found]

end

theorem readFraction?_padded {microsecond : Nat} (small : microsecond < perSecond) :
    readFraction? (padded 6 microsecond) = some ⟨[], microsecond, true⟩ := by
  have taken : takeNumber? 6 0 (padded 6 microsecond ++ []) = some (microsecond, []) :=
    takeNumber?_padded_of_lt small []
  rw [List.append_nil] at taken
  have whole : (padded 6 microsecond).take 6 = padded 6 microsecond :=
    List.take_of_length_le (by simp)
  have nothing : (padded 6 microsecond).drop 6 = [] := List.drop_of_length_le (by simp)
  simp [readFraction?, whole, nothing, taken]

theorem readParts?_seconds {second microsecond count : Nat} (smallSecond : second < 10 ^ 2)
    (smallFraction : microsecond < perSecond) :
    readParts? true (count + 1) (padded 2 second ++ fractionText microsecond) =
      some ⟨[second], microsecond, true⟩ := by
  unfold fractionText
  split
  · next none =>
      rw [none, List.append_nil]
      exact readParts?_end smallSecond
  · rw [readParts?_point smallSecond (List.ne_nil_of_length_pos (by simp)),
      readFraction?_padded smallFraction]
    rfl

/-- A clock that shows hours and minutes, and perhaps more. -/
theorem readClock?_minutes {hour minute : Nat} {further : List Char} {others : ClockReading}
    (smallHour : hour < 10 ^ 2)
    (isRead : readParts? true 2 (padded 2 minute ++ further) = some others) :
    readClock? (padded 2 hour ++ ':' :: (padded 2 minute ++ further)) =
      some { others with parts := hour :: others.parts } := by
  have colon :
      ((padded 2 hour ++ ':' :: (padded 2 minute ++ further)).drop 2).head? = some ':' := by
    rw [List.drop_append_of_le_length (by simp), List.drop_of_length_le (by simp)]
    rfl
  have more : padded 2 minute ++ further ≠ [] :=
    List.ne_nil_of_length_pos (by rw [List.length_append, length_padded]; omega)
  rw [readClock?, colon, beq_self_eq_true, readParts?_colon smallHour more, isRead]
  rfl

theorem readClock?_seconds {hour minute second microsecond : Nat} (smallHour : hour < 10 ^ 2)
    (smallMinute : minute < 10 ^ 2) (smallSecond : second < 10 ^ 2)
    (smallFraction : microsecond < perSecond) :
    readClock? (padded 2 hour ++ ':' :: (padded 2 minute ++ ':' ::
        (padded 2 second ++ fractionText microsecond))) =
      some ⟨[hour, minute, second], microsecond, true⟩ := by
  have more : padded 2 second ++ fractionText microsecond ≠ [] :=
    List.ne_nil_of_length_pos (by rw [List.length_append, length_padded]; omega)
  have isRead : readParts? true 2 (padded 2 minute ++ ':' :: (padded 2 second ++
      fractionText microsecond)) = some ⟨[minute, second], microsecond, true⟩ := by
    rw [readParts?_colon smallMinute more, readParts?_seconds smallSecond smallFraction]
    rfl
  exact readClock?_minutes smallHour isRead

/-- An offset as it is read back. -/
def restoredOffset (offset : Int) : Int := if offset.natAbs < perSecond then 0 else offset

theorem fractionText_eq_nil_iff {microsecond : Nat} :
    fractionText microsecond = [] ↔ microsecond = 0 := by
  unfold fractionText
  split <;> simp_all

theorem span_eq {seconds microsecond : Nat} {reading : ClockReading}
    (parts : reading.parts = [seconds / 3600, seconds / 60 % 60, seconds % 60] ∨
      reading.parts = [seconds / 3600, seconds / 60 % 60] ∧ seconds % 60 = 0)
    (fraction : reading.microsecond = microsecond) :
    reading.span = if seconds = 0 then 0 else seconds * perSecond + microsecond := by
  have whole : (seconds / 3600 * 60 + seconds / 60 % 60) * 60 + seconds % 60 = seconds := by omega
  rcases parts with parts | ⟨parts, even⟩
  · simp [ClockReading.span, parts, fraction, whole]
  · rw [even] at whole
    simp [ClockReading.span, parts, fraction, whole]

/-- An offset is its sign and its span. -/
theorem readOffset?_signed {offset : Int} {clock : List Char} {reading : ClockReading}
    (further : clock ≠ []) (isRead : readClock? clock = some reading)
    (complete : reading.complete = true)
    (spans : reading.span = if offset.natAbs / perSecond = 0 then 0
      else offset.natAbs / perSecond * perSecond + offset.natAbs % perSecond) :
    readOffset? ((if offset < 0 then '-' else '+') :: clock) = some (restoredOffset offset) := by
  have signed : readOffset? ((if offset < 0 then '-' else '+') :: clock) =
      some (if offset < 0 then -(reading.span : Int) else reading.span) := by
    obtain ⟨c, others, rfl⟩ := List.exists_cons_of_ne_nil further
    split <;> simp [readOffset?, isRead, complete]
  rw [signed, spans, restoredOffset]
  simp only [Nat.div_add_mod', Nat.div_eq_zero_iff_lt (show 0 < perSecond by decide)]
  by_cases tiny : offset.natAbs < perSecond
  · rw [if_pos tiny, if_pos tiny]
    simp
  · rw [if_neg tiny, if_neg tiny, Option.some_inj]
    split <;> omega

theorem readOffset?_offsetText {offset : Int} (small : offset.natAbs < perDay) :
    readOffset? (offsetText offset) = some (restoredOffset offset) := by
  have minutes : offset.natAbs / perSecond / 60 % 60 < 10 ^ 2 := by omega
  have hours : offset.natAbs / perSecond / 3600 < 10 ^ 2 := by
    simp only [perDay, perSecond] at small ⊢
    omega
  have fraction : offset.natAbs % perSecond < perSecond := Nat.mod_lt _ (by decide)
  simp only [offsetText, List.cons_append, List.append_assoc]
  by_cases whole : offset.natAbs / perSecond % 60 = 0 ∧
      fractionText (offset.natAbs % perSecond) = []
  · have noFraction := fractionText_eq_nil_iff.mp whole.2
    rw [if_pos whole]
    apply readOffset?_signed (by simp [padded])
    · apply readClock?_minutes hours
      rw [List.append_nil]
      exact readParts?_end minutes
    · rfl
    · exact span_eq (.inr ⟨rfl, whole.1⟩) noFraction.symm
  · rw [if_neg whole]
    apply readOffset?_signed (by simp [padded])
    · exact readClock?_seconds hours minutes (by omega) fraction
    · rfl
    · exact span_eq (.inl rfl) rfl

/-- The date of a timestamp, as its text starts with it. -/
def dateText (time : Timestamp) : List Char :=
  padded 4 time.year.toNat ++ '-' :: padded 2 time.month ++ '-' :: padded 2 time.day

/-- The time of day of a timestamp, as its text holds it. -/
def timeText (time : Timestamp) : List Char :=
  padded 2 time.hour ++ ':' :: (padded 2 time.minute ++ ':' ::
    (padded 2 time.second ++ fractionText time.microsecond))

variable {time : Timestamp}

theorem text_eq (time : Timestamp) :
    time.text = time.dateText ++ 'T' :: (time.timeText ++ offsetText time.offset) := by
  simp [text, dateText, timeText]

theorem length_dateText (time : Timestamp) : time.dateText.length = 10 := by simp [dateText]

/-- A month starts with a digit, so it is not taken for a week. -/
theorem exists_padded_two (number : Nat) :
    ∃ first second, padded 2 number = [first, second] ∧ first ≠ 'W' := by
  refine ⟨Nat.digitChar (number / 10 % 10), Nat.digitChar (number % 10), rfl, ?_⟩
  intro week
  have digit : (Nat.digitChar (number / 10 % 10)).isDigit = true :=
    Nat.isDigit_digitChar.trans (decide_eq_true (Nat.mod_lt _ (by decide)))
  rw [week] at digit
  cases digit

theorem dateLength_text (time : Timestamp) : dateLength time.text = 10 := by
  obtain ⟨first, second, month, noWeek⟩ := exists_padded_two time.month
  have body : time.text.drop 4 = '-' :: first :: second :: '-' :: (padded 2 time.day ++
      'T' :: (time.timeText ++ offsetText time.offset)) := by
    simp [text_eq, dateText, month]
  rw [dateLength, body]
  simp [noWeek]

theorem readDate?_dateText {year : Nat} (isYear : time.year = year) (small : year < 10 ^ 4)
    (smallMonth : time.month < 10 ^ 2) (smallDay : time.day < 10 ^ 2) :
    readDate? time.dateText = some (time.year, time.month, time.day) := by
  obtain ⟨first, second, month, noWeek⟩ := exists_padded_two time.month
  have readYear := takeNumber?_padded_of_lt small
    ('-' :: (padded 2 time.month ++ '-' :: padded 2 time.day))
  have readMonth := takeNumber?_padded_of_lt smallMonth ('-' :: padded 2 time.day)
  have readDay := takeNumber?_padded_of_lt smallDay []
  rw [month] at readYear readMonth
  rw [List.append_nil] at readDay
  simp only [List.cons_append, List.nil_append] at readYear readMonth
  simp [readDate?, dateText, isYear, month, readYear, readMonth, readDay, noWeek]

theorem not_startsOffset_of_isDigit {c : Char} (digit : c.isDigit = true) :
    startsOffset c = false := by
  simp only [startsOffset, Bool.or_eq_false_iff, beq_eq_false_iff_ne]
  refine ⟨⟨?_, ?_⟩, ?_⟩ <;> rintro rfl <;> cases digit

theorem not_startsOffset_of_mem_timeText :
    ∀ c ∈ time.timeText, (!startsOffset c) = true := by
  intro c member
  have characters : c.isDigit = true ∨ c = ':' ∨ c = '.' := by
    simp only [timeText, fractionText, List.mem_append, List.mem_cons] at member
    rcases member with digit | rfl | digit | rfl | digit | fraction
    · exact .inl (isDigit_of_mem_padded c digit)
    · exact .inr (.inl rfl)
    · exact .inl (isDigit_of_mem_padded c digit)
    · exact .inr (.inl rfl)
    · exact .inl (isDigit_of_mem_padded c digit)
    · split at fraction
      · cases fraction
      · rcases List.mem_cons.mp fraction with rfl | digit
        · exact .inr (.inr rfl)
        · exact .inl (isDigit_of_mem_padded c digit)
  rcases characters with digit | rfl | rfl
  · rw [not_startsOffset_of_isDigit digit]
    rfl
  · rfl
  · rfl

theorem startsOffset_of_head_offsetText (offset : Int) :
    ∀ c ∈ (offsetText offset).head?, (!startsOffset c) = false := by
  intro c head
  simp only [offsetText, List.cons_append, List.head?_cons, Option.mem_def,
    Option.some.injEq] at head
  rw [← head]
  split <;> rfl

/-- A timestamp as it is read back. -/
def restored (time : Timestamp) : Timestamp := { time with offset := restoredOffset time.offset }

theorem natAbs_restoredOffset_le (offset : Int) :
    (restoredOffset offset).natAbs ≤ offset.natAbs := by
  unfold restoredOffset
  split <;> omega

theorem daysInMonth_le (year : Int) (month : Nat) : daysInMonth year month ≤ 31 := by
  unfold daysInMonth
  split
  · split <;> omega
  · split <;> omega

/-- A timestamp with a text is read back from it. -/
theorem read_text (valid : time.isValid = true) : read time.text = .ok time.restored := by
  simp only [isValid, Bool.and_eq_true, decide_eq_true_eq] at valid
  obtain ⟨⟨⟨⟨⟨⟨⟨⟨⟨⟨firstYear, lastYear⟩, firstMonth⟩, lastMonth⟩, firstDay⟩, lastDay⟩, hour⟩,
    minute⟩, second⟩, microsecond⟩, offset⟩ := valid
  have day : time.day < 10 ^ 2 := by
    have month := daysInMonth_le time.year time.month
    omega
  have date : readDate? time.dateText = some (time.year, time.month, time.day) :=
    readDate?_dateText (show time.year = time.year.toNat by omega) (by omega) (by omega) day
  have clock := readClock?_seconds (show time.hour < 10 ^ 2 by omega)
    (show time.minute < 10 ^ 2 by omega) (show time.second < 10 ^ 2 by omega) microsecond
  have front : time.text.take 10 = time.dateText := by
    rw [text_eq, List.take_append_of_le_length (by simp [length_dateText]),
      List.take_of_length_le (by simp [length_dateText])]
  have back : time.text.drop (10 + 1) = time.timeText ++ offsetText time.offset := by
    rw [text_eq, List.drop_append, List.drop_of_length_le (by simp [length_dateText]),
      length_dateText]
    rfl
  have parts : readParts time.text = some time.restored := by
    simp only [readParts, dateLength_text, front, back, date,
      Text.takeWhile_run not_startsOffset_of_mem_timeText (startsOffset_of_head_offsetText _),
      Text.dropWhile_run not_startsOffset_of_mem_timeText (startsOffset_of_head_offsetText _),
      readOffset?_offsetText offset]
    simp only [timeText, clock]
    rfl
  have noFault : time.restored.fault? = none := by
    have small := natAbs_restoredOffset_le time.offset
    simp only [fault?, restored]
    grind
  simp only [read, parts, noFault]

end Automation.Timestamp
