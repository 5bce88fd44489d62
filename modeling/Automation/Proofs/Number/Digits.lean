import Automation.Json.Reader
import Automation.Proofs.Text.Classes

/-!
Integers in decimal digits.

The digits that an integer is written in are read back as that integer, by the reader of plain
numerals and by the reader of JSON numbers, where they are not too many to be read.
-/

namespace Automation

/-- The values of the digits of a number. -/
def digitValues (number : Nat) : List Nat :=
  (Decimal.digits number).map fun c => c.toNat - '0'.toNat

theorem isDigit_of_mem_digits {number : Nat} :
    ∀ c ∈ Decimal.digits number, c.isDigit = true := fun _ member =>
  Nat.isDigit_of_mem_toDigits (by omega) (by omega) member

theorem exists_cons_digits (number : Nat) :
    ∃ c rest, Decimal.digits number = c :: rest ∧ c.isDigit = true := by
  obtain ⟨c, rest, shown⟩ := List.exists_cons_of_ne_nil Nat.toDigits_ne_nil
  exact ⟨c, rest, shown, isDigit_of_mem_digits c (shown ▸ List.mem_cons_self)⟩

theorem ofDigits_digitValues (number : Nat) : ofDigits (digitValues number) = number := by
  have read := @Nat.ofDigitChars_ten_toDigits number
  rw [Nat.ofDigitChars_eq_foldl] at read
  rw [ofDigits, digitValues, List.foldl_map]
  exact read

theorem digitValues_ne_nil (number : Nat) : digitValues number ≠ [] := by
  simp [digitValues, Decimal.digits, Nat.toDigits_ne_nil]

theorem length_digitValues (number : Nat) :
    (digitValues number).length = (Decimal.digits number).length :=
  List.length_map _

theorem integerOfDigits_digitValues (negative : Bool) {number : Nat}
    (short : (Decimal.digits number).length ≤ digitLimit) :
    integerOfDigits negative (digitValues number) =
      .ok (if negative then -(number : Int) else number) := by
  have within : ¬digitLimit < (digitValues number).length := by
    rw [length_digitValues]
    omega
  rw [integerOfDigits, if_neg within, ofDigits_digitValues]

/-- A number with a zero in front is zero. -/
theorem eq_zero_of_digitValues {number : Nat} {others : List Nat}
    (zeroFirst : digitValues number = 0 :: others) : number = 0 ∧ others = [] := by
  induction number using Nat.strongRecOn generalizing others with
  | _ number inductionHypothesis =>
      rw [digitValues, Decimal.digits, Nat.toDigits_eq_if (by omega)] at zeroFirst
      split at zeroFirst
      · rename_i small
        have value := Nat.toNat_digitChar_of_lt_ten small
        have zero : '0'.toNat = 48 := rfl
        simp only [List.map_cons, List.map_nil, List.cons.injEq] at zeroFirst
        exact ⟨by omega, zeroFirst.2.symm⟩
      · rename_i large
        cases front : digitValues (number / 10) with
        | nil => exact absurd front (digitValues_ne_nil _)
        | cons first rest =>
            rw [digitValues, Decimal.digits] at front
            rw [List.map_append, front, List.cons_append, List.cons.injEq] at zeroFirst
            have shorter : number / 10 = 0 ∧ rest = [] :=
              inductionHypothesis (number / 10) (by omega)
                (by rw [digitValues, Decimal.digits, front, zeroFirst.1])
            omega

theorem takeAsciiDigits_digits (number : Nat) {rest : List Char}
    (ends : ∀ c ∈ rest.head?, c.isDigit = false) :
    Json.takeAsciiDigits (Decimal.digits number ++ rest) = (digitValues number, rest) := by
  rw [Json.takeAsciiDigits, Text.takeWhile_run isDigit_of_mem_digits ends,
    Text.dropWhile_run isDigit_of_mem_digits ends, digitValues]

/-- Digits in front of a character that is none are taken, and no more. -/
theorem takeDigits_append {text rest : List Char} (digits : ∀ c ∈ text, c.isDigit = true)
    (ends : ∀ c ∈ rest.head?, Text.decimalValue? c = none) :
    takeDigits (text ++ rest) = (text.map fun c => c.toNat - '0'.toNat, rest) := by
  induction text with
  | nil =>
      cases rest with
      | nil => rfl
      | cons c others =>
          rw [List.nil_append, takeDigits, ends c rfl]
          rfl
  | cons c others inductionHypothesis =>
      have further := inductionHypothesis fun other member =>
        digits other (List.mem_cons_of_mem c member)
      rw [List.cons_append, takeDigits, Text.decimalValue?_of_isDigit (digits c List.mem_cons_self)]
      simp only [further]
      rfl

theorem takeDigits_of_isDigit {text : List Char} (digits : ∀ c ∈ text, c.isDigit = true) :
    takeDigits text = (text.map fun c => c.toNat - '0'.toNat, []) := by
  have noMore : ∀ c ∈ ([] : List Char).head?, Text.decimalValue? c = none := nofun
  have taken := takeDigits_append digits noMore
  rwa [List.append_nil] at taken

theorem takeDigits_digits (number : Nat) :
    takeDigits (Decimal.digits number) = (digitValues number, []) :=
  takeDigits_of_isDigit isDigit_of_mem_digits

theorem Numeral.read?_digits (number : Nat) :
    Numeral.read? (Decimal.digits number) = some ⟨false, digitValues number, none⟩ := by
  obtain ⟨c, rest, shown, digit⟩ := exists_cons_digits number
  obtain ⟨first, others, values⟩ := List.exists_cons_of_ne_nil (digitValues_ne_nil number)
  have taken := takeDigits_digits number
  have noMinus : c ≠ '-' := by
    rintro rfl
    exact absurd digit (by decide)
  rw [shown, values] at taken ⊢
  simp [Numeral.read?, noMinus, taken]

theorem Numeral.read?_negative (number : Nat) :
    Numeral.read? ('-' :: Decimal.digits number) = some ⟨true, digitValues number, none⟩ := by
  obtain ⟨first, others, values⟩ := List.exists_cons_of_ne_nil (digitValues_ne_nil number)
  have taken := takeDigits_digits number
  rw [values] at taken ⊢
  simp [Numeral.read?, taken]

/-- What may follow a JSON number: nothing that the number could go on with. -/
def EndsNumber (rest : List Char) : Prop :=
  ∀ c ∈ rest.head?, c.isDigit = false ∧ c ≠ '.' ∧ c ≠ 'e' ∧ c ≠ 'E'

theorem readFraction_of_endsNumber {rest : List Char} (ends : EndsNumber rest) :
    Json.readFraction rest = ([], rest) := by
  unfold Json.readFraction
  split
  · exact absurd rfl (ends '.' rfl).2.1
  · rfl

theorem readExponentPart_of_endsNumber {rest : List Char} (ends : EndsNumber rest) :
    Json.readExponentPart rest = (none, rest) := by
  cases rest with
  | nil => rfl
  | cons c after =>
      obtain ⟨-, -, noSmall, noCapital⟩ := ends c rfl
      simp [Json.readExponentPart, noSmall, noCapital]

/-- A number in digits is read as an integer. -/
theorem readNumber?_digits (negative : Bool) {number : Nat}
    (short : (Decimal.digits number).length ≤ digitLimit) {rest : List Char}
    (ends : EndsNumber rest) : Json.readNumber? negative (Decimal.digits number ++ rest) =
      some (.int (if negative then -(number : Int) else number), rest) := by
  have stops : ∀ c ∈ rest.head?, c.isDigit = false := fun c head => (ends c head).1
  have taken := takeAsciiDigits_digits number stops
  have isInteger := integerOfDigits_digitValues negative short
  cases values : digitValues number with
  | nil => exact absurd values (digitValues_ne_nil number)
  | cons first others =>
      rw [values] at taken isInteger
      -- The reader drops what follows a zero, but a number with a zero in front is zero.
      cases first with
      | zero =>
          obtain ⟨rfl, rfl⟩ := eq_zero_of_digitValues values
          have front : (Decimal.digits 0 ++ rest).drop 1 = rest := rfl
          simp only [Json.readNumber?, taken, front, readFraction_of_endsNumber ends,
            readExponentPart_of_endsNumber ends, isInteger, and_self, if_true]
      | succ first =>
          simp only [Json.readNumber?, taken, readFraction_of_endsNumber ends,
            readExponentPart_of_endsNumber ends, isInteger, and_self, if_true]

end Automation
