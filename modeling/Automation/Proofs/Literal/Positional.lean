import Automation.Proofs.Json.Doubles
import Automation.Proofs.Literal.Lexeme
import Mathlib.Data.List.Induction

/-!
Literals of double precision numbers.

The text of a number is plain or has an exponent, depending on its size. Its literal is always
plain: digits, and perhaps a point with digits behind it. Both denote the same decimal number, for
the point is moved by as many places as the exponent counts, past either end of the digits.
-/

namespace Automation

namespace Decimal

/-- A text of digits, at least one. -/
def IsDigits (text : List Char) : Prop := text ≠ [] ∧ ∀ c ∈ text, c.isDigit = true

instance (text : List Char) : Decidable (IsDigits text) :=
  decidable_of_iff (text ≠ [] ∧ text.all Char.isDigit = true) (by rw [List.all_eq_true, IsDigits])

def valuesOf (text : List Char) : List Nat := text.map fun c => c.toNat - '0'.toNat

theorem valuesOf_append (first second : List Char) :
    valuesOf (first ++ second) = valuesOf first ++ valuesOf second := List.map_append

theorem length_valuesOf (text : List Char) : (valuesOf text).length = text.length :=
  List.length_map _

/-- The natural number that a text of digits denotes. -/
def natural? (text : List Char) : Option Nat :=
  if IsDigits text then some (ofDigits (valuesOf text)) else none

/-- The decimal that a plain text denotes: digits, and perhaps a point with digits behind it. -/
def ofPlain? (text : List Char) : Option Decimal :=
  match Text.splitAt '.' text with
  | [whole] => (natural? whole).map fun units => ⟨units, 0⟩
  | [whole, fraction] =>
      match natural? whole, natural? fraction with
      | some units, some parts =>
          some ⟨units * Nat.pow 10 fraction.length + parts, -fraction.length⟩
      | _, _ => none
  | _ => none

/-- The exponent that a text denotes: digits, behind a sign or not. -/
def exponent? : List Char → Option Int
  | '+' :: digits => (natural? digits).map fun size : Nat => (size : Int)
  | '-' :: digits => (natural? digits).map fun size : Nat => -(size : Int)
  | digits => (natural? digits).map fun size : Nat => (size : Int)

/-- The decimal that a text denotes, which is plain or has an exponent. -/
def ofText? (text : List Char) : Option Decimal :=
  match Text.splitAt 'e' text with
  | [plain] => ofPlain? plain
  | [mantissa, power] =>
      match ofPlain? mantissa, exponent? power with
      | some decimal, some exponent => some ⟨decimal.coefficient, decimal.exponent + exponent⟩
      | _, _ => none
  | _ => none

/-- The decimal number that a text denotes, as its sign and its absolute value. -/
def signed? : List Char → Option (Bool × Decimal)
  | '-' :: rest => (ofText? rest).map fun decimal => (true, decimal)
  | text => (ofText? text).map fun decimal => (false, decimal)

/-- A plain text: digits, and perhaps a point with digits behind it. -/
inductive IsPlain : List Char → Prop where
  | whole {digits : List Char} : IsDigits digits → IsPlain digits
  | pointed {whole fraction : List Char} : IsDigits whole → IsDigits fraction →
      IsPlain (whole ++ '.' :: fraction)

theorem isDigits_digits (number : Nat) : IsDigits (digits number) :=
  ⟨Nat.toDigits_ne_nil, isDigit_of_mem_digits⟩

theorem IsDigits.not_mem {text : List Char} (isDigits : IsDigits text) {c : Char}
    (noDigit : c.isDigit = false) : c ∉ text := by
  intro member
  rw [isDigits.2 c member] at noDigit
  cases noDigit

theorem IsDigits.natural?_eq {text : List Char} (isDigits : IsDigits text) :
    natural? text = some (ofDigits (valuesOf text)) :=
  if_pos isDigits

theorem isDigits_padded (count number : Nat) :
    IsDigits (List.replicate count '0' ++ digits number) := by
  refine ⟨?_, fun c member => isDigit_of_mem_padded member⟩
  exact List.append_ne_nil_of_right_ne_nil _ (isDigits_digits number).1

theorem ofDigits_append (first second : List Nat) :
    ofDigits (first ++ second) = ofDigits first * Nat.pow 10 second.length + ofDigits second := by
  induction second using List.reverseRecOn with
  | nil => simp [ofDigits]
  | append_singleton others digit inductionHypothesis =>
      have last (values : List Nat) :
          ofDigits (values ++ [digit]) = 10 * ofDigits values + digit := by
        simp [ofDigits]
      have power : Nat.pow 10 (others ++ [digit]).length = 10 * Nat.pow 10 others.length := by
        rw [List.length_append, List.length_singleton, Nat.mul_comm]
        rfl
      rw [← List.append_assoc, last, last, inductionHypothesis, power, Nat.mul_add,
        Nat.mul_left_comm, Nat.add_assoc]

theorem ofDigits_zeros (count : Nat) : ofDigits (valuesOf (List.replicate count '0')) = 0 := by
  induction count with
  | zero => rfl
  | succ count inductionHypothesis =>
      rw [List.replicate_succ, ← List.singleton_append, valuesOf_append, ofDigits_append,
        inductionHypothesis]
      exact Nat.zero_mul _

theorem ofDigits_digits (number : Nat) : ofDigits (valuesOf (digits number)) = number :=
  ofDigits_digitValues number

theorem ofDigits_padded (count number : Nat) :
    ofDigits (valuesOf (List.replicate count '0' ++ digits number)) = number := by
  rw [valuesOf_append, ofDigits_append, ofDigits_zeros, Nat.zero_mul, Nat.zero_add,
    ofDigits_digits]

theorem natural?_padded (count number : Nat) :
    natural? (List.replicate count '0' ++ digits number) = some number := by
  rw [(isDigits_padded count number).natural?_eq, ofDigits_padded]

theorem ofPlain?_whole {text : List Char} (isDigits : IsDigits text) :
    ofPlain? text = some ⟨ofDigits (valuesOf text), 0⟩ := by
  rw [ofPlain?, Text.splitAt_of_not_mem (isDigits.not_mem rfl)]
  simp only [isDigits.natural?_eq, Option.map_some]

theorem ofPlain?_pointed {whole fraction : List Char} (isWhole : IsDigits whole)
    (isFraction : IsDigits fraction) : ofPlain? (whole ++ '.' :: fraction) =
      some ⟨ofDigits (valuesOf (whole ++ fraction)), -fraction.length⟩ := by
  rw [ofPlain?, Text.splitAt_append (isWhole.not_mem rfl),
    Text.splitAt_of_not_mem (isFraction.not_mem rfl)]
  simp only [isWhole.natural?_eq, isFraction.natural?_eq]
  rw [valuesOf_append, ofDigits_append, length_valuesOf]

theorem IsPlain.not_mem {text : List Char} (plain : IsPlain text) {c : Char}
    (noDigit : c.isDigit = false) (noPoint : c ≠ '.') : c ∉ text := by
  cases plain with
  | whole isDigits => exact isDigits.not_mem noDigit
  | pointed isWhole isFraction =>
      simp [isWhole.not_mem noDigit, isFraction.not_mem noDigit, noPoint]

theorem IsPlain.ofText?_eq {text : List Char} (plain : IsPlain text) :
    ofText? text = ofPlain? text := by
  rw [ofText?, Text.splitAt_of_not_mem (plain.not_mem rfl (by decide))]

theorem positional_of_negative {decimal : Decimal} (fractional : ¬0 ≤ decimal.exponent) :
    ∃ whole fraction, positional decimal = whole ++ '.' :: fraction ∧ IsDigits whole ∧
      IsDigits fraction ∧ (fraction.length : Int) = -decimal.exponent ∧
      ofDigits (valuesOf (whole ++ fraction)) = decimal.coefficient := by
  generalize isPlaces : (-decimal.exponent).toNat = places
  generalize isCount : places + 1 - (digits decimal.coefficient).length = count
  generalize isPadded : List.replicate count '0' ++ digits decimal.coefficient = padded
  have shown : positional decimal = padded.take (padded.length - places) ++
      '.' :: padded.drop (padded.length - places) := by
    rw [positional, if_neg fractional]
    simp only [isPlaces, isCount, isPadded]
  have isDigits : IsDigits padded := isPadded ▸ isDigits_padded count decimal.coefficient
  -- Zeros are filled in until a digit stands before the point.
  have enough : places < padded.length := by
    rw [← isPadded, List.length_append, List.length_replicate]
    omega
  refine ⟨_, _, shown, ⟨?_, ?_⟩, ⟨?_, ?_⟩, ?_, ?_⟩
  · apply List.ne_nil_of_length_pos
    rw [List.length_take]
    omega
  · exact fun c member => isDigits.2 c (List.mem_of_mem_take member)
  · apply List.ne_nil_of_length_pos
    rw [List.length_drop]
    omega
  · exact fun c member => isDigits.2 c (List.mem_of_mem_drop member)
  · rw [List.length_drop]
    omega
  · rw [List.take_append_drop, ← isPadded, ofDigits_padded]

theorem positional_of_nonneg {decimal : Decimal} (integral : 0 ≤ decimal.exponent) :
    IsDigits (positional decimal) ∧ ofDigits (valuesOf (positional decimal)) =
      decimal.coefficient * Nat.pow 10 decimal.exponent.toNat := by
  rw [positional, if_pos integral]
  constructor
  · refine ⟨List.append_ne_nil_of_left_ne_nil (isDigits_digits _).1 _, fun c member => ?_⟩
    rcases List.mem_append.mp member with digit | zero
    · exact isDigit_of_mem_digits c digit
    · rw [List.eq_of_mem_replicate zero]
      rfl
  · rw [valuesOf_append, ofDigits_append, ofDigits_zeros, ofDigits_digits, length_valuesOf,
      List.length_replicate, Nat.add_zero]

theorem isPlain_positional (decimal : Decimal) : IsPlain (positional decimal) := by
  by_cases integral : 0 ≤ decimal.exponent
  · exact .whole (positional_of_nonneg integral).1
  · obtain ⟨whole, fraction, shown, isWhole, isFraction, -⟩ := positional_of_negative integral
    rw [shown]
    exact .pointed isWhole isFraction

/-- Positional text denotes the number that it was made from. -/
theorem ofText?_positional (decimal : Decimal) :
    ∃ read, ofText? (positional decimal) = some read ∧ read.toRat = decimal.toRat := by
  rw [(isPlain_positional decimal).ofText?_eq]
  by_cases integral : 0 ≤ decimal.exponent
  · obtain ⟨isDigits, isValue⟩ := positional_of_nonneg integral
    refine ⟨_, ofPlain?_whole isDigits, ?_⟩
    rw [isValue, toRat, toRat, if_pos integral, if_pos (Int.le_refl 0)]
    exact congrArg _ (Nat.mul_one _)
  · obtain ⟨whole, fraction, shown, isWhole, isFraction, isLength, isValue⟩ :=
      positional_of_negative integral
    refine ⟨decimal, ?_, rfl⟩
    rw [shown, ofPlain?_pointed isWhole isFraction, isValue, isLength, Int.neg_neg]

/-- The point of a text with an exponent stands behind the first digit. -/
theorem exists_mantissa (layout : Layout) (decimal : Decimal) :
    ∃ mantissa, IsPlain mantissa ∧
      exponential layout decimal = mantissa ++ exponentText layout
        (decimal.exponent + (digits decimal.coefficient).length - 1) ∧
      ofPlain? mantissa = some ⟨decimal.coefficient,
        1 - ((digits decimal.coefficient).length : Int)⟩ := by
  have isDigits := isDigits_digits decimal.coefficient
  have isValue := ofDigits_digits decimal.coefficient
  unfold exponential
  generalize digits decimal.coefficient = shown at isDigits isValue ⊢
  match shown with
  | [] => exact absurd rfl isDigits.1
  | [first] =>
      refine ⟨[first], .whole isDigits, rfl, ?_⟩
      rw [ofPlain?_whole isDigits, isValue]
      rfl
  | first :: second :: others =>
      have isFirst : IsDigits [first] := by
        refine ⟨List.cons_ne_nil _ _, fun c member => isDigits.2 c ?_⟩
        rw [List.mem_singleton.mp member]
        exact List.mem_cons_self
      have isRest : IsDigits (second :: others) :=
        ⟨List.cons_ne_nil _ _, fun c member => isDigits.2 c (List.mem_cons_of_mem first member)⟩
      have places : -((second :: others).length : Int) =
          1 - ((first :: second :: others).length : Int) := by
        simp only [List.length_cons]
        omega
      refine ⟨[first] ++ '.' :: second :: others, .pointed isFirst isRest, rfl, ?_⟩
      rw [ofPlain?_pointed isFirst isRest, List.singleton_append, isValue, places]

theorem exponent?_exponentText (layout : Layout) (exponent : Int) :
    ∃ power, exponentText layout exponent = 'e' :: power ∧ 'e' ∉ power ∧
      exponent? power = some exponent := by
  refine ⟨_, rfl, ?_, ?_⟩
  · have noMark := (isDigits_padded (layout.exponentDigits - (digits exponent.natAbs).length)
      exponent.natAbs).not_mem (c := 'e') rfl
    rw [List.mem_cons, not_or]
    refine ⟨?_, noMark⟩
    split <;> decide
  · split
    · rw [exponent?, natural?_padded, Option.map_some]
      congr 1
      omega
    · rw [exponent?, natural?_padded, Option.map_some]
      congr 1
      omega

/-- Text with an exponent denotes the decimal that it was made from, digit for digit. -/
theorem ofText?_exponential (layout : Layout) (decimal : Decimal) :
    ofText? (exponential layout decimal) = some decimal := by
  obtain ⟨mantissa, plain, shown, isMantissa⟩ := exists_mantissa layout decimal
  obtain ⟨power, marked, noMark, isPower⟩ := exponent?_exponentText layout
    (decimal.exponent + (digits decimal.coefficient).length - 1)
  rw [shown, marked, ofText?, Text.splitAt_append (plain.not_mem rfl (by decide)),
    Text.splitAt_of_not_mem noMark]
  simp only [isMantissa, isPower]
  congr 2
  omega

example : ofText? "1.25e-07".toList = some ⟨125, -9⟩ := by decide

theorem IsDigits.exists_cons {text : List Char} (isDigits : IsDigits text) (rest : List Char) :
    ∃ c others, text ++ rest = c :: others ∧ c.isDigit = true := by
  obtain ⟨c, others, rfl⟩ := List.exists_cons_of_ne_nil isDigits.1
  exact ⟨c, others ++ rest, rfl, isDigits.2 c List.mem_cons_self⟩

theorem IsDigits.takeDigits_eq {text : List Char} (isDigits : IsDigits text) :
    takeDigits text = (valuesOf text, []) :=
  takeDigits_of_isDigit isDigits.2

theorem IsDigits.exists_valuesOf {text : List Char} (isDigits : IsDigits text) :
    ∃ first others, valuesOf text = first :: others := by
  apply List.exists_cons_of_ne_nil
  intro empty
  exact isDigits.1 (List.map_eq_nil_iff.mp empty)

theorem IsPlain.exists_cons {text : List Char} (plain : IsPlain text) :
    ∃ c rest, text = c :: rest ∧ c.isDigit = true := by
  cases plain with
  | whole isDigits =>
      have starts := isDigits.exists_cons []
      rwa [List.append_nil] at starts
  | pointed isWhole _ => exact isWhole.exists_cons _

theorem signed?_signed (negative : Bool) {text : List Char}
    (starts : ∃ c rest, text = c :: rest ∧ c.isDigit = true) :
    signed? (Binary64.signed negative text) =
      (ofText? text).map fun decimal => (negative, decimal) := by
  cases negative with
  | true => rfl
  | false =>
      obtain ⟨c, rest, rfl, digit⟩ := starts
      rw [Binary64.signed, if_neg Bool.false_ne_true, signed?]
      intro _ minus
      exact absurd minus (Json.head_ne_of_isDigit digit rfl)

end Decimal

namespace Binary64

/-- The text of a number, plain or with an exponent, denotes the decimal that its literal shows. -/
theorem ofText?_magnitudeText (magnitude : Nat) :
    ∃ read, Decimal.ofText? (magnitudeText magnitude) = some read ∧
      read.toRat = (decimal magnitude).toRat := by
  by_cases positional : Decimal.isPositional Decimal.standardLayout (Decimal.shortest magnitude)
  · rw [magnitudeText, if_pos positional]
    exact Decimal.ofText?_positional _
  · -- Only a positional decimal is written with a further zero.
    have unchanged : decimal magnitude = Decimal.shortest magnitude :=
      if_neg fun both => positional both.1
    rw [magnitudeText, if_neg positional, unchanged]
    exact ⟨_, Decimal.ofText?_exponential _ _, rfl⟩

end Binary64

namespace Numeral

def readUnsigned? (negative : Bool) (text : List Char) : Option Numeral :=
  match takeDigits text with
  | ([], _) => none
  | (whole, []) => some ⟨negative, whole, none⟩
  | (whole, '.' :: rest) =>
      match takeDigits rest with
      | ([], _) => none
      | (fraction, []) => some ⟨negative, whole, some fraction⟩
      | _ => none
  | _ => none

theorem read?_signed (negative : Bool) {text : List Char}
    (starts : ∃ c rest, text = c :: rest ∧ c.isDigit = true) :
    read? (Binary64.signed negative text) = readUnsigned? negative text := by
  cases negative with
  | true => rfl
  | false =>
      obtain ⟨c, rest, rfl, digit⟩ := starts
      rw [Binary64.signed, if_neg Bool.false_ne_true, read?]
      · rfl
      · intro _ minus
        exact absurd minus (Json.head_ne_of_isDigit digit rfl)

theorem exists_read?_plain (negative : Bool) {text : List Char} (plain : Decimal.IsPlain text) :
    ∃ numeral, read? (Binary64.signed negative text) = some numeral := by
  rw [read?_signed negative plain.exists_cons, readUnsigned?]
  cases plain with
  | whole isDigits =>
      obtain ⟨first, others, values⟩ := isDigits.exists_valuesOf
      rw [isDigits.takeDigits_eq, values]
      exact ⟨_, rfl⟩
  | @pointed whole fraction isWhole isFraction =>
      obtain ⟨first, others, values⟩ := isWhole.exists_valuesOf
      obtain ⟨next, further, parts⟩ := isFraction.exists_valuesOf
      have ends : ∀ c ∈ ('.' :: fraction).head?, Text.decimalValue? c = none := by
        rintro c ⟨⟩
        decide
      rw [takeDigits_append isWhole.2 ends, ← Decimal.valuesOf, values]
      simp only [isFraction.takeDigits_eq, parts]
      exact ⟨_, rfl⟩

end Numeral

namespace Condition

/-- The literal of a finite number is one word, which is plain: digits, and perhaps a point with
digits behind it, after the sign of the number. It denotes the number that the text of the number
denotes, however that is laid out. -/
theorem literal_float_exact (negative : Bool) (magnitude : Fin Binary64.magnitudeBound) :
    let number := Binary64.finite negative magnitude
    let shown := literal (.float number)
    (∃ plain, Decimal.IsPlain plain ∧ shown = Binary64.signed negative plain) ∧
      (∃ numeral, Numeral.read? shown = some numeral) ∧
      (∃ token, tokenize shown = .ok [token] ∧ token.lexeme = .word shown) ∧
      ∃ read written, Decimal.signed? number.text = some (negative, read) ∧
        Decimal.signed? shown = some (negative, written) ∧ written.toRat = read.toRat := by
  intro number shown
  have plain : Decimal.IsPlain (Decimal.positional (Binary64.decimal magnitude)) :=
    Decimal.isPlain_positional _
  refine ⟨⟨_, plain, rfl⟩, Numeral.exists_read?_plain negative plain, ?_, ?_⟩
  · have numeric : ∀ c ∈ shown, isNumeric c = true :=
      isNumeric_of_mem_signed fun _ member => isNumeric_of_mem_positional member
    have notEmpty : shown ≠ [] := Binary64.signed_ne_nil (Decimal.positional_ne_nil _)
    have alone : lexemes? shown = some [.word shown] := by
      have lexes := lexesTo_numeric notEmpty numeric [] nofun
      rwa [List.append_nil, lexemes?_nil] at lexes
    obtain ⟨tokens, tokenized, isLexeme⟩ := lexemes?_eq_some_iff.mp alone
    obtain ⟨token, rfl, lexeme⟩ := List.map_eq_singleton_iff.mp isLexeme
    exact ⟨token, tokenized, lexeme⟩
  · obtain ⟨read, isRead, readValue⟩ := Binary64.ofText?_magnitudeText magnitude
    obtain ⟨written, isWritten, writtenValue⟩ :=
      Decimal.ofText?_positional (Binary64.decimal magnitude)
    refine ⟨read, written, ?_, ?_, writtenValue.trans readValue.symm⟩
    · apply (Decimal.signed?_signed negative (Binary64.exists_cons_magnitudeText magnitude)).trans
      rw [isRead, Option.map_some]
    · apply (Decimal.signed?_signed negative plain.exists_cons).trans
      rw [isWritten, Option.map_some]

end Condition

end Automation
