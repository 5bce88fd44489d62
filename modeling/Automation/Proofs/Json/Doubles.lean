import Automation.Proofs.Json.RoundTrip

/-!
Double precision numbers in JSON text.

A number that is read back from its own text is read back wherever that text stands: what may
follow a number does not change how far it is read. So whether a number is kept is a question
about its text alone.
-/

namespace Automation

namespace Json

variable {text rest : List Char}

theorem takeAsciiDigits_append (text : List Char) (ends : ∀ c ∈ rest.head?, c.isDigit = false) :
    takeAsciiDigits (text ++ rest) =
      ((takeAsciiDigits text).1, (takeAsciiDigits text).2 ++ rest) := by
  have digits : ∀ c ∈ text.takeWhile Char.isDigit, c.isDigit = true :=
    fun _ member => Text.mem_takeWhile member
  have stops : ∀ c ∈ (text.dropWhile Char.isDigit ++ rest).head?, c.isDigit = false :=
    Text.forall_head?_append Text.head?_dropWhile ends
  have whole : text ++ rest =
      text.takeWhile Char.isDigit ++ (text.dropWhile Char.isDigit ++ rest) := by
    rw [← List.append_assoc, List.takeWhile_append_dropWhile]
  rw [takeAsciiDigits, whole, Text.takeWhile_run digits stops, Text.dropWhile_run digits stops]
  rfl

theorem readFraction_append (ends : EndsNumber rest) :
    readFraction (text ++ rest) = ((readFraction text).1, (readFraction text).2 ++ rest) := by
  cases text with
  | nil => exact readFraction_of_endsNumber ends
  | cons c others =>
      by_cases point : c = '.'
      · subst point
        have taken := takeAsciiDigits_append others fun d head => (ends d head).1
        cases found : takeAsciiDigits others with
        | mk digits after =>
            rw [found] at taken
            cases digits <;> simp [readFraction, taken, found]
      · simp [readFraction, point]

theorem takeSign_append (nonempty : text ≠ []) :
    takeSign (text ++ rest) = ((takeSign text).1, (takeSign text).2 ++ rest) := by
  obtain ⟨c, others, rfl⟩ := List.exists_cons_of_ne_nil nonempty
  by_cases minus : c = '-'
  · subst minus
    rfl
  · by_cases plus : c = '+'
    · subst plus
      rfl
    · simp [takeSign, minus, plus]

theorem readExponentPart_append (ends : EndsNumber rest)
    (whole : (readExponentPart text).2 = []) :
    readExponentPart (text ++ rest) = ((readExponentPart text).1, rest) := by
  cases text with
  | nil => exact readExponentPart_of_endsNumber ends
  | cons mark body =>
      by_cases isMark : mark = 'e' ∨ mark = 'E'
      · have nonempty : body ≠ [] := by
          rintro rfl
          simp [readExponentPart, isMark, takeSign, takeAsciiDigits] at whole
        simp only [List.cons_append, readExponentPart, isMark, if_true, takeSign_append nonempty,
          takeAsciiDigits_append _ fun d head => (ends d head).1] at whole ⊢
        cases found : takeAsciiDigits (takeSign body).2 with
        | mk digits after =>
            rw [found] at whole
            cases digits with
            | nil => cases whole
            | cons digit digits =>
                obtain rfl : after = [] := whole
                rfl
      · simp [readExponentPart, isMark] at whole

/-- A number from what follows the digits of its integral part on. -/
def finishNumber (negative : Bool) (whole : List Nat) (text : List Char) :
    Option (Value × List Char) :=
  let (fraction, afterFraction) := readFraction text
  let (exponent, afterExponent) := readExponentPart afterFraction
  if fraction = [] ∧ exponent = none then
    match integerOfDigits negative whole with
    | .ok number => some (.int number, afterExponent)
    | .error _ => none
  else some (.float (doubleOfDigits negative whole fraction (exponent.getD 0)), afterExponent)

theorem readNumber?_eq (negative : Bool) (text : List Char) :
    readNumber? negative text =
      match takeAsciiDigits text with
      | ([], _) => none
      | (0 :: _, _) => finishNumber negative [0] (text.drop 1)
      | (digits, after) => finishNumber negative digits after := by
  unfold readNumber?
  rcases takeAsciiDigits text with ⟨_ | ⟨_ | first, others⟩, after⟩ <;> rfl

variable {negative : Bool} {value : Value}

theorem afterExponent_of_finishNumber {whole : List Nat} {after : List Char}
    (read : finishNumber negative whole text = some (value, after)) :
    (readExponentPart (readFraction text).2).2 = after := by
  simp only [finishNumber] at read
  split at read
  · split at read <;> simp_all
  · simp_all

theorem finishNumber_append {whole : List Nat} (ends : EndsNumber rest)
    (read : finishNumber negative whole text = some (value, [])) :
    finishNumber negative whole (text ++ rest) = some (value, rest) := by
  have whole := afterExponent_of_finishNumber read
  simp only [finishNumber, readFraction_append ends, readExponentPart_append ends whole] at read ⊢
  split at read
  · next plain =>
      rw [if_pos plain]
      split at read <;> simp_all
  · next marked => simp_all

/-- What may follow a number changes nothing about it. -/
theorem readNumber?_append (ends : EndsNumber rest)
    (read : readNumber? negative text = some (value, [])) :
    readNumber? negative (text ++ rest) = some (value, rest) := by
  rw [readNumber?_eq] at read ⊢
  rw [takeAsciiDigits_append text fun d head => (ends d head).1]
  rcases found : takeAsciiDigits text with ⟨_ | ⟨_ | first, others⟩, after⟩
  · simp [found] at read
  · have nonempty : text ≠ [] := by
      rintro rfl
      cases found
    rw [found] at read
    simp only [List.drop_append_of_le_length (List.length_pos_iff.mpr nonempty)]
    exact finishNumber_append ends read
  · rw [found] at read
    exact finishNumber_append ends read

theorem takeAsciiDigits_suffix (text : List Char) : (takeAsciiDigits text).2 <:+ text :=
  List.dropWhile_suffix Char.isDigit

theorem readFraction_suffix (text : List Char) : (readFraction text).2 <:+ text := by
  unfold readFraction
  split
  · next others =>
      split
      · exact List.suffix_refl _
      · exact (takeAsciiDigits_suffix others).trans (List.suffix_cons '.' others)
  · exact List.suffix_refl _

theorem takeSign_suffix (text : List Char) : (takeSign text).2 <:+ text := by
  unfold takeSign
  split
  · exact List.suffix_cons _ _
  · exact List.suffix_cons _ _
  · exact List.suffix_refl _

theorem readExponentPart_suffix (text : List Char) : (readExponentPart text).2 <:+ text := by
  cases text with
  | nil => exact List.suffix_refl _
  | cons mark body =>
      simp only [readExponentPart]
      split
      · rcases found : takeAsciiDigits (takeSign body).2 with ⟨_ | ⟨digit, digits⟩, after⟩
        · exact List.suffix_refl _
        · have left : after <:+ (takeSign body).2 := by
            have suffix := takeAsciiDigits_suffix (takeSign body).2
            rwa [found] at suffix
          exact (left.trans (takeSign_suffix body)).trans (List.suffix_cons mark body)
      · exact List.suffix_refl _

theorem suffix_of_finishNumber {whole : List Nat} {after : List Char}
    (read : finishNumber negative whole text = some (value, after)) : after <:+ text := by
  rw [← afterExponent_of_finishNumber read]
  exact (readExponentPart_suffix _).trans (readFraction_suffix text)

theorem suffix_of_readNumber? {after : List Char}
    (read : readNumber? negative text = some (value, after)) : after <:+ text := by
  rw [readNumber?_eq] at read
  have digits := takeAsciiDigits_suffix text
  rcases found : takeAsciiDigits text with ⟨_ | ⟨_ | first, others⟩, rest⟩ <;>
    rw [found] at read digits
  · cases read
  · exact (suffix_of_finishNumber read).trans (List.drop_suffix 1 text)
  · exact (suffix_of_finishNumber read).trans digits

end Json

namespace Decimal

/-- Characters that the text of a number consists of. -/
def isNumeric (c : Char) : Bool := c.isDigit || c == '.' || c == 'e' || c == '+' || c == '-'

theorem isNumeric_of_isDigit {c : Char} (digit : c.isDigit = true) : isNumeric c = true := by
  simp [isNumeric, digit]

theorem isDigit_of_mem_padded {count number : Nat} {c : Char}
    (member : c ∈ List.replicate count '0' ++ digits number) : c.isDigit = true := by
  rcases List.mem_append.mp member with zero | digit
  · rw [(List.mem_replicate.mp zero).2]
    rfl
  · exact isDigit_of_mem_digits c digit

theorem isNumeric_of_mem_digits {number : Nat} {c : Char} (member : c ∈ digits number) :
    isNumeric c = true :=
  isNumeric_of_isDigit (isDigit_of_mem_digits c member)

theorem isNumeric_of_mem_positional {decimal : Decimal} {c : Char}
    (member : c ∈ positional decimal) : isNumeric c = true := by
  unfold positional at member
  split at member
  · rcases List.mem_append.mp member with digit | zero
    · exact isNumeric_of_mem_digits digit
    · rw [(List.mem_replicate.mp zero).2]
      rfl
  · rcases List.mem_append.mp member with whole | pointed
    · exact isNumeric_of_isDigit (isDigit_of_mem_padded (List.mem_of_mem_take whole))
    · rcases List.mem_cons.mp pointed with rfl | fraction
      · rfl
      · exact isNumeric_of_isDigit (isDigit_of_mem_padded (List.mem_of_mem_drop fraction))

theorem isNumeric_of_mem_exponentText {layout : Layout} {exponent : Int} {c : Char}
    (member : c ∈ exponentText layout exponent) : isNumeric c = true := by
  rcases List.mem_cons.mp member with rfl | signed
  · rfl
  · rcases List.mem_cons.mp signed with rfl | size
    · split <;> rfl
    · exact isNumeric_of_isDigit (isDigit_of_mem_padded size)

theorem isNumeric_of_mem_exponential {layout : Layout} {decimal : Decimal} {c : Char}
    (member : c ∈ exponential layout decimal) : isNumeric c = true := by
  rcases List.mem_append.mp member with mantissa | exponent
  · have shown : c = '.' ∨ c ∈ digits decimal.coefficient := by
      split at mantissa
      · next first second rest isShown =>
          rw [isShown]
          simp only [List.mem_cons] at mantissa ⊢
          exact or_left_comm.mp mantissa
      · exact .inr mantissa
    rcases shown with rfl | digit
    · rfl
    · exact isNumeric_of_mem_digits digit
  · exact isNumeric_of_mem_exponentText exponent

theorem exists_cons_positional (decimal : Decimal) :
    ∃ c rest, positional decimal = c :: rest ∧ c.isDigit = true := by
  by_cases whole : 0 ≤ decimal.exponent
  · obtain ⟨c, rest, shown, digit⟩ := exists_cons_digits decimal.coefficient
    exact ⟨c, _, by rw [positional, if_pos whole, shown, List.cons_append], digit⟩
  · simp only [positional, if_neg whole]
    generalize isPadded : List.replicate _ '0' ++ digits decimal.coefficient = padded
    -- Zeros are filled in until a digit stands before the point.
    have enough : (-decimal.exponent).toNat < padded.length := by
      rw [← isPadded, List.length_append, List.length_replicate]
      omega
    obtain ⟨c, rest, shown⟩ : ∃ c rest,
        padded.take (padded.length - (-decimal.exponent).toNat) = c :: rest := by
      apply List.exists_cons_of_ne_nil
      rw [Ne, List.take_eq_nil_iff, not_or]
      exact ⟨by omega, List.ne_nil_of_length_pos (by omega)⟩
    refine ⟨c, _, by rw [shown, List.cons_append], ?_⟩
    apply isDigit_of_mem_padded
    rw [isPadded]
    exact List.mem_of_mem_take (shown ▸ List.mem_cons_self)

theorem exists_cons_exponential (layout : Layout) (decimal : Decimal) :
    ∃ c rest, exponential layout decimal = c :: rest ∧ c.isDigit = true := by
  obtain ⟨c, rest, shown, digit⟩ := exists_cons_digits decimal.coefficient
  cases rest with
  | nil => exact ⟨c, _, by simp [exponential, shown]; rfl, digit⟩
  | cons next others => exact ⟨c, _, by simp [exponential, shown]; rfl, digit⟩

end Decimal

namespace Binary64

theorem exists_cons_magnitudeText (magnitude : Nat) :
    ∃ c rest, magnitudeText magnitude = c :: rest ∧ c.isDigit = true := by
  simp only [magnitudeText]
  split
  · exact Decimal.exists_cons_positional _
  · exact Decimal.exists_cons_exponential _ _

theorem isNumeric_of_mem_magnitudeText {magnitude : Nat} {c : Char}
    (member : c ∈ magnitudeText magnitude) : Decimal.isNumeric c = true := by
  simp only [magnitudeText] at member
  split at member
  · exact Decimal.isNumeric_of_mem_positional member
  · exact Decimal.isNumeric_of_mem_exponential member

end Binary64

namespace Json

/-- Whether the text of a number is read back as that number. -/
def keepsDouble (number : Binary64) : Bool :=
  match read? (writeDouble number) with
  | some (.float found) => found == number
  | _ => false

theorem keepsDouble_iff {number : Binary64} :
    keepsDouble number = true ↔ read? (writeDouble number) = some (.float number) := by
  unfold keepsDouble
  split
  · next found isRead => simp [isRead]
  · next other =>
      constructor
      · exact nofun
      · exact fun isRead => (other number isRead).elim

theorem isSpace_of_isNumeric {c : Char} (numeric : Decimal.isNumeric c = true) :
    isSpace c = false := by
  simp only [Decimal.isNumeric, Bool.or_eq_true, beq_iff_eq] at numeric
  rcases numeric with (((digit | rfl) | rfl) | rfl) | rfl
  · have opens := opensValue_of_isDigit digit
    simp only [opensValue, Bool.and_eq_true, Bool.not_eq_true'] at opens
    exact opens.1.1
  all_goals rfl

theorem eq_nil_of_skipSpace {after : List Char} (numeric : ∀ c ∈ after, Decimal.isNumeric c = true)
    (blank : skipSpace after = []) : after = [] := by
  cases after with
  | nil => rfl
  | cons c others =>
      have noSpace := isSpace_of_isNumeric (numeric c List.mem_cons_self)
      simp [skipSpace, noSpace] at blank

theorem writeDouble_finite (negative : Bool) (magnitude : Fin Binary64.magnitudeBound) :
    writeDouble (.finite negative magnitude) =
      Binary64.signed negative (Binary64.magnitudeText magnitude) := rfl

/-- A finite number starts as a number does, and it is read as the number after its sign. -/
theorem readValue?_writeDouble (fuel : Nat) (negative : Bool)
    (magnitude : Fin Binary64.magnitudeBound) (rest : List Char) :
    readValue? (fuel + 1) (writeDouble (.finite negative magnitude) ++ rest) =
      readNumber? negative (Binary64.magnitudeText magnitude ++ rest) := by
  obtain ⟨c, others, shown, digit⟩ := Binary64.exists_cons_magnitudeText magnitude
  rw [writeDouble_finite, shown]
  cases negative with
  | false =>
      rw [Binary64.signed, if_neg (by decide), List.cons_append, readValue?,
        readScalar?_digit digit]
      all_goals
        intro _ head
        exact absurd head (head_ne_of_isDigit digit rfl)
  | true =>
      rw [Binary64.signed, if_pos rfl, List.cons_append, List.cons_append, readValue?,
        readScalar?_negative digit] <;> simp

theorem exists_cons_writeDouble (negative : Bool) (magnitude : Fin Binary64.magnitudeBound) :
    ∃ c rest, writeDouble (.finite negative magnitude) = c :: rest ∧ opensValue c = true := by
  obtain ⟨c, others, shown, digit⟩ := Binary64.exists_cons_magnitudeText magnitude
  rw [writeDouble_finite, shown]
  cases negative with
  | false => exact ⟨c, others, rfl, opensValue_of_isDigit digit⟩
  | true => exact ⟨'-', c :: others, rfl, by decide⟩

theorem readNumber?_of_keepsDouble {negative : Bool} {magnitude : Fin Binary64.magnitudeBound}
    (kept : keepsDouble (.finite negative magnitude) = true) :
    readNumber? negative (Binary64.magnitudeText magnitude) =
      some (.float (.finite negative magnitude), []) := by
  have isRead := keepsDouble_iff.mp kept
  obtain ⟨c, others, shown, opens⟩ := exists_cons_writeDouble negative magnitude
  have front : skipSpace (writeDouble (.finite negative magnitude)) =
      writeDouble (.finite negative magnitude) := by
    rw [shown, skipSpace_of_opensValue opens]
  have number := readValue?_writeDouble (2 * (writeDouble (.finite negative magnitude)).length + 1)
    negative magnitude []
  rw [List.append_nil, List.append_nil] at number
  rw [read?, front, number] at isRead
  split at isRead
  · next value after found =>
      split at isRead
      · next blank =>
          cases isRead
          have numeric : ∀ c ∈ after, Decimal.isNumeric c = true := fun _ member =>
            Binary64.isNumeric_of_mem_magnitudeText ((suffix_of_readNumber? found).mem member)
          rw [found, eq_nil_of_skipSpace numeric blank]
      · cases isRead
  · cases isRead

end Json

end Automation
