import Automation.Proofs.Text.Runs
import Automation.Proofs.Timestamp.Order
import Automation.Schema.Time

/-!
Which points in time a field takes.

The text of every timestamp is taken whose offset is in whole minutes, so also that of every
timestamp in universal time. Each part of the text is passed over as the digits that show it.
-/

namespace Automation.Field

open Timestamp

variable {time : Timestamp}

theorem takePart?_padded {number : Nat} (small : number < 100) (separator : Char)
    (rest : List Char) :
    takePart? separator (separator :: (padded 2 number ++ rest)) = some (number, rest) := by
  rw [takePart?, if_pos rfl]
  exact takeNumber?_padded_of_lt small rest

/-- The date of a timestamp without its time of day. -/
def dateOf (time : Timestamp) : Timestamp := ⟨time.year, time.month, time.day, 0, 0, 0, 0, 0⟩

theorem takeDate?_dateText (valid : time.isValid = true) (rest : List Char) :
    takeDate? (time.dateText ++ rest) = some (dateOf time, rest) := by
  obtain ⟨⟨firstYear, lastYear⟩, month, day, -⟩ := bounds_of_isValid valid
  have year := takeNumber?_padded_of_lt (show time.year.toNat < 10 ^ 4 by omega)
    ('-' :: (padded 2 time.month ++ '-' :: (padded 2 time.day ++ rest)))
  have isYear : (time.year.toNat : Int) = time.year := by omega
  simp only [takeDate?, dateText, List.append_assoc, List.cons_append, year, Option.bind_eq_bind,
    Option.bind_some, takePart?_padded (show time.month < 100 by omega),
    takePart?_padded (show time.day < 100 by omega), isYear]
  rfl

theorem takeSeconds?_padded {second microsecond : Nat} (small : second < 100) {rest : List Char}
    (ends : ∀ c ∈ rest.head?, c ≠ '.' ∧ c ≠ ',' ∧ c.isDigit = false) :
    takeSeconds? (':' :: (padded 2 second ++ (fractionText microsecond ++ rest))) =
      some (second, rest) := by
  rw [takeSeconds?, takePart?_padded small]
  simp only [Option.bind_eq_bind, Option.bind_some, fractionText]
  by_cases whole : microsecond = 0
  · rw [if_pos whole, List.nil_append]
    cases rest with
    | nil => rfl
    | cons c others =>
        obtain ⟨noPoint, noComma, -⟩ := ends c rfl
        exact if_pos ⟨noPoint, noComma⟩
  · have digits : ∀ c ∈ padded 6 microsecond, c.isDigit = true := isDigit_of_mem_padded
    have nonempty : padded 6 microsecond ≠ [] :=
      List.ne_nil_of_length_eq_add_one (length_padded 6 microsecond)
    obtain ⟨first, others, shown⟩ := List.exists_cons_of_ne_nil nonempty
    have isFirst : ((padded 6 microsecond ++ rest).head?.any Char.isDigit) = true := by
      rw [shown]
      exact digits first (shown ▸ List.mem_cons_self)
    have passed : (padded 6 microsecond ++ rest).dropWhile Char.isDigit = rest :=
      Text.dropWhile_run digits fun c first => (ends c first).2.2
    rw [if_neg whole, List.cons_append]
    simp only [ne_eq, not_true_eq_false, false_and, if_false, isFirst, passed, if_true]

theorem takeClock?_timeText (valid : time.isValid = true) (date : Timestamp) {rest : List Char}
    (ends : ∀ c ∈ rest.head?, c ≠ '.' ∧ c ≠ ',' ∧ c.isDigit = false) :
    takeClock? date (time.timeText ++ rest) =
      some ({ date with
        hour := time.hour, minute := time.minute, second := time.second }, rest) := by
  obtain ⟨-, -, -, hour, minute, second, -⟩ := bounds_of_isValid valid
  have isHour := takeNumber?_padded_of_lt (show time.hour < 10 ^ 2 by omega)
    (':' :: (padded 2 time.minute ++ ':' ::
      (padded 2 time.second ++ (fractionText time.microsecond ++ rest))))
  have isSecond := @takeSeconds?_padded time.second time.microsecond (by omega) rest ends
  simp only [takeClock?, timeText, List.append_assoc, List.cons_append, isHour,
    Option.bind_eq_bind, Option.bind_some, takePart?_padded (show time.minute < 100 by omega),
    List.head?_cons, if_true, isSecond]

theorem isOffset_offsetText {offset : Int} (small : offset.natAbs < perDay)
    (minutes : offset % (60 * perSecond) = 0) : isOffset (offsetText offset) = true := by
  have whole : offset.natAbs / perSecond % 60 = 0 ∧
      fractionText (offset.natAbs % perSecond) = [] := by
    rw [fractionText_eq_nil_iff]
    simp only [perSecond] at minutes ⊢
    omega
  have hours : offset.natAbs / perSecond / 3600 < 24 := by
    simp only [perDay, perSecond] at small ⊢
    omega
  have minute : offset.natAbs / perSecond / 60 % 60 < 60 := by omega
  have isHours := takeNumber?_padded_of_lt
    (show offset.natAbs / perSecond / 3600 < 10 ^ 2 by omega)
    (':' :: padded 2 (offset.natAbs / perSecond / 60 % 60))
  have isMinutes := takeNumber?_padded_of_lt
    (show offset.natAbs / perSecond / 60 % 60 < 10 ^ 2 by omega) []
  rw [List.append_nil] at isMinutes
  have signed (sign : Char) (isSign : sign = '-' ∨ sign = '+') :
      isOffset (sign :: (padded 2 (offset.natAbs / perSecond / 3600) ++
        ':' :: padded 2 (offset.natAbs / perSecond / 60 % 60))) = true := by
    rcases isSign with rfl | rfl <;> simp [isOffset, isHours, isMinutes, hours, minute]
  rw [offsetText, if_pos whole, List.append_nil, List.cons_append]
  split
  · exact signed '-' (Or.inl rfl)
  · exact signed '+' (Or.inr rfl)

theorem isDateText_text (valid : time.isValid = true)
    (minutes : time.offset % (60 * perSecond) = 0) : isDateText time.text = true := by
  have bounds := valid
  simp only [isValid, Bool.and_eq_true, decide_eq_true_eq] at bounds
  obtain ⟨-, small⟩ := bounds
  have ends : ∀ c ∈ (offsetText time.offset).head?, c ≠ '.' ∧ c ≠ ',' ∧ c.isDigit = false := by
    intro c first
    simp only [offsetText, List.cons_append, List.head?_cons, Option.mem_some_iff] at first
    rw [← first]
    split <;> decide
  have isClock := takeClock?_timeText valid (dateOf time) ends
  have isTime : ({ dateOf time with
      hour := time.hour, minute := time.minute, second := time.second } : Timestamp).isValid =
        true := by
    have noFraction : 0 < perSecond ∧ Int.natAbs 0 < perDay := by decide
    simp only [isValid, Bool.and_eq_true] at valid ⊢
    obtain ⟨⟨others, -⟩, -⟩ := valid
    exact ⟨⟨others, decide_eq_true noFraction.1⟩, decide_eq_true noFraction.2⟩
  rw [isDateText, text_eq, takeDate?_dateText valid]
  simp [isClock, isTime, isOffset_offsetText small minutes]

/-- A field takes the text of every timestamp with an offset in whole minutes. -/
theorem checkTime_text (valid : time.isValid = true)
    (minutes : time.offset % (60 * perSecond) = 0) :
    checkTime (.text (String.ofList time.text)) = .ok () := by
  rw [checkTime, String.toList_ofList, isDateText_text valid minutes]
  rfl

end Automation.Field
