import Automation.Proofs.Fallible
import Automation.Proofs.Json.Doubles

/-!
What is written as JSON can be read.

The text of every value that is not refused is the text of some value. A mapping has the text of an
object, a foreign value that of its label, and the text of a double precision number is one number
to its end, with a point or an exponent. Whether it is the same number is another question.
-/

namespace Automation

namespace Json

variable {negative : Bool} {whole fraction rest : List Char}

/-- The values of digits. -/
def valuesOf (digits : List Char) : List Nat := digits.map fun c => c.toNat - '0'.toNat

theorem takeAsciiDigits_run {run : List Char} (digits : ∀ c ∈ run, c.isDigit = true)
    (ends : ∀ c ∈ rest.head?, c.isDigit = false) :
    takeAsciiDigits (run ++ rest) = (valuesOf run, rest) := by
  rw [takeAsciiDigits, Text.takeWhile_run digits ends, Text.dropWhile_run digits ends, valuesOf]

/-- Digits without a zero in front, or a zero alone, are the integral part of a number. -/
theorem readNumber?_whole (digits : ∀ c ∈ whole, c.isDigit = true) (nonempty : whole ≠ [])
    (noZero : whole.head? = some '0' → whole = ['0'])
    (ends : ∀ c ∈ rest.head?, c.isDigit = false) :
    readNumber? negative (whole ++ rest) = finishNumber negative (valuesOf whole) rest := by
  obtain ⟨c, others, rfl⟩ := List.exists_cons_of_ne_nil nonempty
  rw [readNumber?_eq, takeAsciiDigits_run digits ends]
  by_cases zero : c = '0'
  · subst zero
    obtain rfl : others = [] := (List.cons.inj (noZero rfl)).2
    rfl
  · have positive : c.toNat - '0'.toNat ≠ 0 := by
      have bounds := Text.isDigit_bounds (digits c List.mem_cons_self)
      intro same
      apply zero
      apply Char.toNat_inj.mp
      omega
    obtain ⟨first, value⟩ := Nat.exists_eq_succ_of_ne_zero positive
    simp only [valuesOf, List.map_cons, value]

theorem readFraction_point (digits : ∀ c ∈ fraction, c.isDigit = true) (nonempty : fraction ≠ [])
    (ends : ∀ c ∈ rest.head?, c.isDigit = false) :
    readFraction ('.' :: (fraction ++ rest)) = (valuesOf fraction, rest) := by
  obtain ⟨c, others, rfl⟩ := List.exists_cons_of_ne_nil nonempty
  rw [readFraction, takeAsciiDigits_run digits ends]
  rfl

/-- An exponent is read to its end. -/
theorem readExponentPart_exponentText (layout : Decimal.Layout) (exponent : Int) :
    ∃ power, readExponentPart (Decimal.exponentText layout exponent) = (some power, []) := by
  generalize size : List.replicate (layout.exponentDigits -
    (Decimal.digits exponent.natAbs).length) '0' ++ Decimal.digits exponent.natAbs = digits
  have all : ∀ c ∈ digits, c.isDigit = true := fun c member =>
    Decimal.isDigit_of_mem_padded (size ▸ member)
  obtain ⟨c, others, rfl⟩ : ∃ c others, digits = c :: others := by
    apply List.exists_cons_of_ne_nil
    rw [← size]
    exact List.append_ne_nil_of_right_ne_nil _ (Decimal.digits_ne_nil _)
  have taken : takeAsciiDigits (c :: others) = (valuesOf (c :: others), []) := by
    have run := @takeAsciiDigits_run [] _ all (by simp)
    rwa [List.append_nil] at run
  rw [Decimal.exponentText, size]
  split <;> simp [readExponentPart, takeSign, taken, valuesOf]

/-- Whether a text is one number with a point or an exponent. -/
def IsDouble (negative : Bool) (text : List Char) : Prop :=
  ∃ found, readNumber? negative text = some (.float found, [])

theorem isDouble_of_point (digits : ∀ c ∈ whole, c.isDigit = true) (nonempty : whole ≠ [])
    (noZero : whole.head? = some '0' → whole = ['0'])
    (decimals : ∀ c ∈ fraction, c.isDigit = true) (present : fraction ≠ [])
    (ends : ∀ c ∈ rest.head?, c.isDigit = false) (finished : (readExponentPart rest).2 = []) :
    IsDouble negative (whole ++ '.' :: (fraction ++ rest)) := by
  have point : ∀ c ∈ ('.' :: (fraction ++ rest)).head?, c.isDigit = false := by simp
  have values : valuesOf fraction ≠ [] := by simpa [valuesOf] using present
  rw [IsDouble, readNumber?_whole digits nonempty noZero point]
  simp only [finishNumber, readFraction_point decimals present ends, values, false_and, if_false,
    finished]
  exact ⟨_, rfl⟩

theorem isDouble_of_exponent (digits : ∀ c ∈ whole, c.isDigit = true) (nonempty : whole ≠ [])
    (noZero : whole.head? = some '0' → whole = ['0']) (layout : Decimal.Layout) (exponent : Int) :
    IsDouble negative (whole ++ Decimal.exponentText layout exponent) := by
  obtain ⟨power, isRead⟩ := readExponentPart_exponentText layout exponent
  have mark : ∀ c ∈ (Decimal.exponentText layout exponent).head?, c.isDigit = false := by
    simp [Decimal.exponentText]
  have noFraction : readFraction (Decimal.exponentText layout exponent) =
      ([], Decimal.exponentText layout exponent) := rfl
  rw [IsDouble, readNumber?_whole digits nonempty noZero mark]
  simp only [finishNumber, noFraction, isRead]
  exact ⟨_, rfl⟩

end Json

namespace Decimal

open Json

variable {negative : Bool} {decimal : Decimal}

/-- A number with a zero in front has no other digit. -/
theorem digits_eq_of_head_zero {number : Nat} (zero : (digits number).head? = some '0') :
    digits number = ['0'] := by
  obtain ⟨c, rest, shown, -⟩ := exists_cons_digits number
  rw [shown, List.head?_cons, Option.some.injEq] at zero
  subst zero
  have values : digitValues number = 0 :: rest.map fun c => c.toNat - '0'.toNat := by
    rw [digitValues, shown]
    rfl
  obtain ⟨-, none⟩ := eq_zero_of_digitValues values
  rw [shown, List.map_eq_nil_iff.mp none]

/-- Zeros are filled in until a digit stands before the point, and no further. -/
theorem isDouble_positional (pointed : decimal.exponent < 0) :
    IsDouble negative (positional decimal) := by
  simp only [positional, if_neg (show ¬0 ≤ decimal.exponent by omega)]
  generalize isPlaces : (-decimal.exponent).toNat = places
  generalize isZeros : places + 1 - (digits decimal.coefficient).length = zeros
  generalize isPadded : List.replicate zeros '0' ++ digits decimal.coefficient = padded
  have all : ∀ c ∈ padded, c.isDigit = true := fun c member =>
    isDigit_of_mem_padded (isPadded ▸ member)
  have length : padded.length = zeros + (digits decimal.coefficient).length := by
    rw [← isPadded, List.length_append, List.length_replicate]
  have noZero : (padded.take (padded.length - places)).head? = some '0' →
      padded.take (padded.length - places) = ['0'] := by
    intro zero
    rw [List.head?_take, if_neg (by omega)] at zero
    cases zeros with
    | zero =>
        rw [List.replicate_zero, List.nil_append] at isPadded
        rw [← isPadded] at zero
        have alone := congrArg List.length (digits_eq_of_head_zero zero)
        rw [List.length_singleton] at alone
        omega
    | succ zeros =>
        obtain ⟨c, others, shown⟩ :=
          List.exists_cons_of_length_pos (show 0 < padded.length by omega)
        have single : padded.length - places = 1 := by omega
        rw [shown, List.head?_cons, Option.some.injEq] at zero
        rw [single, shown, zero]
        rfl
  have isRead : IsDouble negative (padded.take (padded.length - places) ++ '.' ::
      (padded.drop (padded.length - places) ++ [])) := by
    apply isDouble_of_point _ _ noZero
    · exact fun c member => all c (List.mem_of_mem_drop member)
    · apply List.ne_nil_of_length_pos
      rw [List.length_drop]
      omega
    · simp
    · rfl
    · exact fun c member => all c (List.mem_of_mem_take member)
    · apply List.ne_nil_of_length_pos
      rw [List.length_take]
      omega
  rwa [List.append_nil] at isRead

/-- One digit stands before the point. -/
theorem isDouble_exponential (layout : Layout) (decimal : Decimal) :
    IsDouble negative (exponential layout decimal) := by
  have all : ∀ c ∈ digits decimal.coefficient, c.isDigit = true := isDigit_of_mem_digits
  obtain ⟨c, rest, shown, digit⟩ := exists_cons_digits decimal.coefficient
  have first : ∀ d ∈ [c], d.isDigit = true := by simpa using digit
  have alone : [c].head? = some '0' → [c] = ['0'] := by simp
  rw [shown] at all
  simp only [exponential, shown]
  cases rest with
  | nil => exact isDouble_of_exponent first (List.cons_ne_nil c []) alone layout _
  | cons next others =>
      rw [List.forall_mem_cons] at all
      obtain ⟨power, isRead⟩ := readExponentPart_exponentText layout
        (decimal.exponent + (c :: next :: others).length - 1)
      apply isDouble_of_point first (List.cons_ne_nil c []) alone all.2 (List.cons_ne_nil _ _)
      · simp [exponentText]
      · rw [isRead]

end Decimal

namespace Binary64

open Json

theorem isDouble_magnitudeText (negative : Bool) (magnitude : Nat) :
    IsDouble negative (magnitudeText magnitude) := by
  simp only [magnitudeText]
  split
  · rename_i isPositional
    apply Decimal.isDouble_positional
    rw [decimal, Decimal.written]
    split
    · exact Int.negSucc_lt_zero 0
    · rename_i notBoth
      exact Int.not_le.mp fun whole => notBoth ⟨isPositional, whole⟩
  · exact Decimal.isDouble_exponential _ _

end Binary64

namespace Value

/-- Scalars that are written: an integer is not too long, and nothing that holds values is left. -/
def isWritableScalar : Value → Bool
  | .int number => (Decimal.digits number.natAbs).length ≤ digitLimit
  | .list _ | .object _ | .mapping _ => false
  | _ => true

/-- The double precision number that the text of one is read as. -/
def restoredDouble : Binary64 → Binary64
  | .finite negative magnitude =>
      match Json.readNumber? negative (Binary64.magnitudeText magnitude) with
      | some (.float found, _) => found
      | _ => .finite negative magnitude
  | .infinite negative => .infinite negative
  | .notANumber _ => .notANumber 0

/-- The scalar that the text of one is read as. -/
def restoredScalar : Value → Value
  | .float number => .float (restoredDouble number)
  | .foreign _ label => .text label
  | value => value

/-- A name as the text that is written for it. -/
def nameText : Value → String
  | .text characters => characters
  | .null => "null"
  | .bool true => "true"
  | .bool false => "false"
  | .float number => String.ofList (Json.writeDouble number)
  | other => String.ofList other.displayed

mutual

/-- A value with objects for its mappings. -/
def asObjects : Value → Value
  | .list items => .list (itemsAsObjects items)
  | .object fields => .object (fieldsAsObjects fields)
  | .mapping bindings => .object (bindingsAsObjects bindings)
  | value => value

/-- Items with objects for the mappings in them. -/
def itemsAsObjects : List Value → List Value
  | [] => []
  | item :: rest => asObjects item :: itemsAsObjects rest

/-- Fields with objects for the mappings in them. -/
def fieldsAsObjects : List (String × Value) → List (String × Value)
  | [] => []
  | (name, value) :: rest => (name, asObjects value) :: fieldsAsObjects rest

/-- The fields that bindings are written as, with objects for the mappings in them. -/
def bindingsAsObjects : List (Value × Value) → List (String × Value)
  | [] => []
  | (name, value) :: rest => (nameText name, asObjects value) :: bindingsAsObjects rest

end

end Value

namespace Json

theorem writeName_eq (name : Value) : writeName name = writeText name.nameText.toList := by
  cases name with
  | bool truth => cases truth <;> rfl
  | _ => simp [writeName, Value.nameText]

/-- The bindings of a mapping after the first one, with the separators before them. -/
def writeFurtherBindings : List (Value × Value) → List Char
  | [] => []
  | bindings => ',' :: ' ' :: writeBindings bindings

theorem writeBindings_cons (binding : Value × Value) (bindings : List (Value × Value)) :
    writeBindings (binding :: bindings) =
      writeName binding.1 ++ ':' :: ' ' :: write binding.2 ++ writeFurtherBindings bindings := by
  cases bindings <;> simp [writeBindings, writeFurtherBindings]

mutual

/-- A mapping has the text of an object. -/
theorem write_asObjects : (value : Value) → write value.asObjects = write value
  | .list items => by rw [Value.asObjects, write, write, writeItems_asObjects items]
  | .object fields => by rw [Value.asObjects, write, write, writeFields_asObjects fields]
  | .mapping bindings => by rw [Value.asObjects, write, write, writeFields_bindings bindings]
  | .null | .bool _ | .int _ | .float _ | .text _ | .foreign _ _ => rfl

theorem writeItems_asObjects : (items : List Value) →
    writeItems (Value.itemsAsObjects items) = writeItems items
  | [] => rfl
  | item :: rest => by
      have further := writeItems_asObjects rest
      rw [Value.itemsAsObjects, writeItems_cons, writeItems_cons, write_asObjects item]
      cases rest with
      | nil => rfl
      | cons => exact congrArg (fun text => write item ++ ',' :: ' ' :: text) further

theorem writeFields_asObjects : (fields : List (String × Value)) →
    writeFields (Value.fieldsAsObjects fields) = writeFields fields
  | [] => rfl
  | (name, value) :: rest => by
      have further := writeFields_asObjects rest
      rw [Value.fieldsAsObjects, writeFields_cons, writeFields_cons, write_asObjects value]
      cases rest with
      | nil => rfl
      | cons => exact congrArg (fun text => _ ++ ',' :: ' ' :: text) further

theorem writeFields_bindings : (bindings : List (Value × Value)) →
    writeFields (Value.bindingsAsObjects bindings) = writeBindings bindings
  | [] => rfl
  | (name, value) :: rest => by
      have further := writeFields_bindings rest
      rw [Value.bindingsAsObjects, writeFields_cons, writeBindings_cons, write_asObjects value,
        writeName_eq]
      cases rest with
      | nil => rfl
      | cons => exact congrArg (fun text => _ ++ ',' :: ' ' :: text) further

end

mutual

theorem scalarsPass_asObjects : (value : Value) → checkWritable value = .ok () →
    value.asObjects.scalarsPass Value.isWritableScalar = true
  | .list items, checked => itemsPass_asObjects items checked
  | .object fields, checked => fieldsPass_asObjects fields checked
  | .mapping bindings, checked => fieldsPass_bindings bindings checked
  | .int number, checked => by
      rw [checkWritable, checkInteger] at checked
      split at checked
      · cases checked
      · rename_i short
        simpa [Value.asObjects, Value.scalarsPass, Value.isWritableScalar] using short
  | .null, _ | .bool _, _ | .float _, _ | .text _, _ | .foreign _ _, _ => rfl

theorem itemsPass_asObjects : (items : List Value) → checkWritableItems items = .ok () →
    Value.itemsPass Value.isWritableScalar (Value.itemsAsObjects items) = true
  | [], _ => rfl
  | item :: rest, checked => by
      obtain ⟨⟨⟩, first, others⟩ := bind_eq_ok_iff.mp checked
      rw [Value.itemsAsObjects, Value.itemsPass, scalarsPass_asObjects item first,
        itemsPass_asObjects rest others]
      rfl

theorem fieldsPass_asObjects : (fields : List (String × Value)) →
    checkWritableFields fields = .ok () →
    Value.fieldsPass Value.isWritableScalar (Value.fieldsAsObjects fields) = true
  | [], _ => rfl
  | (_, value) :: rest, checked => by
      obtain ⟨⟨⟩, first, others⟩ := bind_eq_ok_iff.mp checked
      rw [Value.fieldsAsObjects, Value.fieldsPass, scalarsPass_asObjects value first,
        fieldsPass_asObjects rest others]
      rfl

theorem fieldsPass_bindings : (bindings : List (Value × Value)) →
    checkWritableBindings bindings = .ok () →
    Value.fieldsPass Value.isWritableScalar (Value.bindingsAsObjects bindings) = true
  | [], _ => rfl
  | (_, value) :: rest, checked => by
      obtain ⟨⟨⟩, -, written⟩ := bind_eq_ok_iff.mp checked
      obtain ⟨⟨⟩, first, others⟩ := bind_eq_ok_iff.mp written
      rw [Value.bindingsAsObjects, Value.fieldsPass, scalarsPass_asObjects value first,
        fieldsPass_bindings rest others]
      rfl

end

theorem restoresScalars_isWritableScalar :
    RestoresScalars Value.isWritableScalar Value.restoredScalar where
  opens := by
    intro value written
    cases value with
    | float number =>
        cases number with
        | finite negative magnitude => exact exists_cons_writeDouble negative magnitude
        | infinite negative =>
            cases negative
            · exact ⟨'I', _, rfl, by decide⟩
            · exact ⟨'-', _, rfl, by decide⟩
        | notANumber payload => exact ⟨'N', _, rfl, by decide⟩
    | foreign identity label => exact ⟨'"', _, rfl, by decide⟩
    | list items | object fields | mapping bindings => cases written
    | null | bool truth | int number | text characters =>
        exact keepsScalars_isPlainScalar.opens (by exact written)
  readsScalar := by
    intro value written fuel rest ends
    cases value with
    | float number =>
        cases number with
        | finite negative magnitude =>
            obtain ⟨found, isRead⟩ := Binary64.isDouble_magnitudeText negative magnitude
            rw [write, readValue?_writeDouble, readNumber?_append ends isRead]
            simp [Value.restoredScalar, Value.restoredDouble, isRead]
        | infinite negative => cases negative <;> rfl
        | notANumber payload => rfl
    | foreign identity label => exact readValue?_text fuel label rest
    | list items | object fields | mapping bindings => cases written
    | null | bool truth | int number | text characters =>
        exact keepsScalars_isPlainScalar.readsScalar (by exact written) fuel rest ends

/-- The text of a value that is not refused is read. -/
theorem exists_read?_write {value : Value} (checked : checkWritable value = .ok ()) :
    ∃ found, read? (write value) = some found := by
  have data := scalarsPass_asObjects value checked
  rw [← write_asObjects value]
  exact ⟨_, restoresScalars_isWritableScalar.read?_write data⟩

/-- The text of an object that is not refused is read as an object. -/
theorem exists_read?_write_object {fields : Fields}
    (checked : checkWritableFields fields = .ok ()) :
    ∃ found, read? (write (.object fields)) = some (.object found) := by
  have data := scalarsPass_asObjects (.object fields) checked
  rw [← write_asObjects (.object fields)]
  exact ⟨_, restoresScalars_isWritableScalar.read?_write data⟩

end Json

end Automation
