import Automation.Proofs.Json.Readable
import Automation.Proofs.Value.Path

/-!
Values that JSON text keeps.

A value is legible if nothing in it is lost in its text, which is a question about its numbers. Of a
legible value only an integer with too many digits is refused, so what is written can be read back.
-/

namespace Automation

namespace Value

/-- Null, truth values, texts, integers, and numbers that are read back from their text.
Not-a-number equals nothing, so nothing keeps it. -/
def isLegibleScalar : Value → Bool
  | .float (.notANumber _) => false
  | .float number => Json.keepsDouble number
  | value => value.isJsonScalar

/-- The values that are built from these scalars. -/
def isLegible (value : Value) : Bool := value.consistsOf isLegibleScalar

/-- These scalars without the integers that are too long to be read. -/
def isKeptScalar : Value → Bool
  | .float number => isLegibleScalar (.float number)
  | value => value.isPlainScalar

/-- The values that are built from the scalars that JSON text keeps. -/
def isKept (value : Value) : Bool := value.consistsOf isKeptScalar

theorem isLegibleScalar_of_isKeptScalar {value : Value} (kept : value.isKeptScalar = true) :
    value.isLegibleScalar = true := by
  cases value with
  | float number => exact kept
  | null | bool truth | int number | text characters => rfl
  | list items | object fields | mapping bindings | foreign identity label => cases kept

mutual

theorem consistsOf_mono {first second : Value → Bool}
    (implies : ∀ value, first value = true → second value = true) : (value : Value) →
    value.consistsOf first = true → value.consistsOf second = true
  | .list items, data => itemsConsistOf_mono implies items data
  | .object fields, data => by
      simp only [consistsOf, Bool.and_eq_true] at data ⊢
      exact ⟨data.1, fieldsConsistOf_mono implies fields data.2⟩
  | .null, data | .bool _, data | .int _, data | .float _, data | .text _, data
  | .mapping _, data | .foreign _ _, data => implies _ data

theorem itemsConsistOf_mono {first second : Value → Bool}
    (implies : ∀ value, first value = true → second value = true) : (items : List Value) →
    itemsConsistOf first items = true → itemsConsistOf second items = true
  | [], _ => rfl
  | item :: rest, data => by
      simp only [itemsConsistOf, Bool.and_eq_true] at data ⊢
      exact ⟨consistsOf_mono implies item data.1, itemsConsistOf_mono implies rest data.2⟩

theorem fieldsConsistOf_mono {first second : Value → Bool}
    (implies : ∀ value, first value = true → second value = true) :
    (fields : List (String × Value)) →
    fieldsConsistOf first fields = true → fieldsConsistOf second fields = true
  | [], _ => rfl
  | (_, value) :: rest, data => by
      simp only [fieldsConsistOf, Bool.and_eq_true] at data ⊢
      exact ⟨consistsOf_mono implies value data.1, fieldsConsistOf_mono implies rest data.2⟩

end

theorem isLegible_of_isKept {value : Value} (kept : value.isKept = true) :
    value.isLegible = true :=
  consistsOf_mono (fun _ => isLegibleScalar_of_isKeptScalar) value kept

section

variable {items : List Value} {fields : Fields}

@[simp]
theorem isKept_text (characters : String) : (text characters).isKept = true := rfl

@[simp]
theorem isKept_bool (truth : Bool) : (bool truth).isKept = true := rfl

@[simp]
theorem isKept_list_iff : (list items).isKept = true ↔ ∀ item ∈ items, item.isKept = true :=
  itemsConsistOf_iff

@[simp]
theorem isKept_object_iff :
    (object fields).isKept = true ↔
      (Entries.keys fields).Nodup ∧ ∀ field ∈ fields, field.2.isKept = true := by
  simp [isKept, consistsOf, fieldsConsistOf_iff]

end

end Value

namespace Json

theorem isWritableScalar_of_isKeptScalar {value : Value} (kept : value.isKeptScalar = true) :
    value.isWritableScalar = true := by
  cases value with
  | int number => exact kept
  | null | bool truth | float number | text characters => rfl
  | list items | object fields | mapping bindings | foreign identity label => cases kept

theorem restoredScalar_of_isKeptScalar {value : Value} (kept : value.isKeptScalar = true) :
    value.restoredScalar = value := by
  cases value with
  | float number =>
      cases number with
      | finite negative magnitude =>
          have isRead := readNumber?_of_keepsDouble kept
          simp [Value.restoredScalar, Value.restoredDouble, isRead]
      | infinite negative => rfl
      | notANumber payload => cases kept
  | null | bool truth | int number | text characters => rfl
  | list items | object fields | mapping bindings | foreign identity label => cases kept

theorem keepsScalars_isKeptScalar : KeepsScalars Value.isKeptScalar where
  opens kept := restoresScalars_isWritableScalar.opens (isWritableScalar_of_isKeptScalar kept)
  readsScalar := by
    intro value kept fuel rest ends
    rw [restoresScalars_isWritableScalar.readsScalar (isWritableScalar_of_isKeptScalar kept) fuel
      rest ends, restoredScalar_of_isKeptScalar kept]
    rfl

/-- A value that JSON text keeps is read back from it. -/
theorem read?_write_of_isKept {value : Value} (kept : value.isKept = true) :
    read? (write value) = some value :=
  keepsScalars_isKeptScalar.read?_write_of_consistsOf kept

theorem checkInteger_eq_ok_iff {number : Int} :
    checkInteger number = .ok () ↔ (Value.int number).isKeptScalar = true := by
  simp only [checkInteger, Value.isKeptScalar, Value.isPlainScalar, decide_eq_true_eq]
  split
  · next long => simp [long]
  · next short => simpa using short

mutual

/-- Of a legible value, exactly what JSON text keeps is written. -/
theorem checkWritable_eq_ok_iff : (value : Value) → value.isLegible = true →
    (checkWritable value = .ok () ↔ value.isKept = true)
  | .int number, _ => checkInteger_eq_ok_iff
  | .list items, legible => checkWritableItems_eq_ok_iff items legible
  | .object fields, legible => by
      simp only [Value.isLegible, Value.consistsOf, Bool.and_eq_true] at legible
      simp only [checkWritable, Value.isKept, Value.consistsOf, legible.1, Bool.true_and]
      exact checkWritableFields_eq_ok_iff fields legible.2
  | .float _, legible => ⟨fun _ => legible, fun _ => rfl⟩
  | .null, _ | .bool _, _ | .text _, _ => ⟨fun _ => rfl, fun _ => rfl⟩
  | .mapping _, legible | .foreign _ _, legible => by cases legible

theorem checkWritableItems_eq_ok_iff : (items : List Value) →
    Value.itemsConsistOf Value.isLegibleScalar items = true →
    (checkWritableItems items = .ok () ↔ Value.itemsConsistOf Value.isKeptScalar items = true)
  | [], _ => ⟨fun _ => rfl, fun _ => rfl⟩
  | item :: rest, legible => by
      simp only [Value.itemsConsistOf, Bool.and_eq_true] at legible
      have first := checkWritable_eq_ok_iff item legible.1
      have others := checkWritableItems_eq_ok_iff rest legible.2
      simp only [checkWritableItems, bind_eq_ok_iff, exists_const, Value.itemsConsistOf,
        Bool.and_eq_true, first, others, Value.isKept]

theorem checkWritableFields_eq_ok_iff : (fields : List (String × Value)) →
    Value.fieldsConsistOf Value.isLegibleScalar fields = true →
    (checkWritableFields fields = .ok () ↔
      Value.fieldsConsistOf Value.isKeptScalar fields = true)
  | [], _ => ⟨fun _ => rfl, fun _ => rfl⟩
  | (_, value) :: rest, legible => by
      simp only [Value.fieldsConsistOf, Bool.and_eq_true] at legible
      have first := checkWritable_eq_ok_iff value legible.1
      have others := checkWritableFields_eq_ok_iff rest legible.2
      simp only [checkWritableFields, bind_eq_ok_iff, exists_const, Value.fieldsConsistOf,
        Bool.and_eq_true, first, others, Value.isKept]

end

end Json

end Automation
