import Automation.Number.Numeral
import Automation.Value.Display
import Automation.Value.Size

/-!
Values that are data.

`consistsOf` says what a value is built from: scalars that pass a test, lists, and objects whose
names are distinct. The values of JSON are built from null, truth values, numbers and texts; plain
values from those of them that are written and read without a loss.
-/

namespace Automation

namespace Value

mutual

/-- Whether a value is built from scalars that pass a test. The names of an object are distinct. -/
def consistsOf (scalar : Value → Bool) : Value → Bool
  | .list items => itemsConsistOf scalar items
  | .object fields => (Entries.keys fields).Nodup && fieldsConsistOf scalar fields
  | value => scalar value

/-- Whether all items of a list are built from scalars that pass a test. -/
def itemsConsistOf (scalar : Value → Bool) : List Value → Bool
  | [] => true
  | item :: rest => consistsOf scalar item && itemsConsistOf scalar rest

/-- Whether all fields of an object are built from scalars that pass a test. -/
def fieldsConsistOf (scalar : Value → Bool) : List (String × Value) → Bool
  | [] => true
  | (_, value) :: rest => consistsOf scalar value && fieldsConsistOf scalar rest

end

/-- The scalars of JSON. -/
def isJsonScalar : Value → Bool
  | .null | .bool _ | .int _ | .float _ | .text _ => true
  | _ => false

/-- The values of JSON. -/
def isJson (value : Value) : Bool := value.consistsOf isJsonScalar

/-- Null, truth values, texts, and integers that are not too long to be read. -/
def isPlainScalar : Value → Bool
  | .null | .bool _ | .text _ => true
  | .int number => (Decimal.digits number.natAbs).length ≤ digitLimit
  | _ => false

/-- The values that are built from these scalars. -/
def isPlain (value : Value) : Bool := value.consistsOf isPlainScalar

end Value

section

variable {scalar : Value → Bool}

theorem Value.itemsConsistOf_iff {items : List Value} :
    itemsConsistOf scalar items = true ↔ ∀ item ∈ items, item.consistsOf scalar = true := by
  induction items with
  | nil => simp [itemsConsistOf]
  | cons item rest inductionHypothesis => simp [itemsConsistOf, inductionHypothesis]

theorem Value.fieldsConsistOf_iff {fields : Fields} :
    fieldsConsistOf scalar fields = true ↔ ∀ field ∈ fields, field.2.consistsOf scalar = true := by
  induction fields with
  | nil => simp [fieldsConsistOf]
  | cons field rest inductionHypothesis => simp [fieldsConsistOf, inductionHypothesis]

theorem Entries.mem_of_get? {α : Type} {name : String} {entries : Entries α} {value : α}
    (found : Entries.get? name entries = some value) : (name, value) ∈ entries := by
  induction entries with
  | nil => simp [Entries.get?] at found
  | cons entry rest inductionHypothesis =>
      by_cases same : entry.1 = name
      · simp only [Entries.get?, same, if_true, Option.some.injEq] at found
        simp [← found, ← same]
      · simp only [Entries.get?, same, if_false] at found
        exact List.mem_cons_of_mem _ (inductionHypothesis found)

theorem Entries.get?_of_mem {α : Type} {name : String} {value : α} {entries : Entries α}
    (distinct : (Entries.keys entries).Nodup) (member : (name, value) ∈ entries) :
    Entries.get? name entries = some value := by
  induction entries with
  | nil => cases member
  | cons entry rest inductionHypothesis =>
      obtain ⟨key, held⟩ := entry
      obtain ⟨fresh, distinct⟩ := List.nodup_cons.mp distinct
      rcases List.mem_cons.mp member with same | inRest
      · cases same
        simp [get?]
      · have different : key ≠ name := by
          rintro rfl
          exact fresh (List.mem_map.mpr ⟨(key, value), inRest, rfl⟩)
        rw [get?, if_neg different]
        exact inductionHypothesis distinct inRest

/-- Among members with distinct keys, each is found by its key. -/
theorem find?_key_of_nodup {α : Type} {key : α → String} {members : List α} {member : α}
    (distinct : (members.map key).Nodup) (listed : member ∈ members) :
    members.find? (fun other => key other == key member) = some member := by
  induction members with
  | nil => cases listed
  | cons first rest inductionHypothesis =>
      obtain ⟨fresh, distinct⟩ := List.nodup_cons.mp distinct
      rcases List.mem_cons.mp listed with rfl | inRest
      · simp
      · have different : key first ≠ key member := fun same =>
          fresh (same ▸ List.mem_map_of_mem inRest)
        rw [List.find?_cons_of_neg (by simpa using different)]
        exact inductionHypothesis distinct inRest

theorem Value.consistsOf_of_get? {name : String} {fields : Fields} {value : Value}
    (data : fieldsConsistOf scalar fields = true)
    (found : Entries.get? name fields = some value) : value.consistsOf scalar = true :=
  fieldsConsistOf_iff.mp data _ (Entries.mem_of_get? found)

theorem Value.consistsOf_valueOf (nullPasses : scalar .null = true) {fields : Fields}
    (data : fieldsConsistOf scalar fields = true) (name : String) :
    (Fields.valueOf name fields).consistsOf scalar = true := by
  unfold Fields.valueOf
  cases found : Entries.get? name fields with
  | some value => exact consistsOf_of_get? data found
  | none => simpa [consistsOf] using nullPasses

theorem Value.fieldsConsistOf_fields {value : Value} (data : value.consistsOf scalar = true) :
    fieldsConsistOf scalar value.fields = true := by
  cases value <;> simp_all [Value.fields, consistsOf, fieldsConsistOf]

end

namespace Decimal

theorem digits_ne_nil (number : Nat) : digits number ≠ [] := Nat.toDigits_ne_nil

theorem integer_ne_nil (number : Int) : integer number ≠ [] := by
  unfold integer
  split
  · simp
  · exact digits_ne_nil _

theorem positional_ne_nil (decimal : Decimal) : positional decimal ≠ [] := by
  unfold positional
  split
  · simp [digits_ne_nil]
  · simp

theorem exponential_ne_nil (layout : Layout) (decimal : Decimal) :
    exponential layout decimal ≠ [] := by
  simp [exponential, exponentText]

end Decimal

theorem Binary64.signed_ne_nil {negative : Bool} {text : List Char} (notEmpty : text ≠ []) :
    Binary64.signed negative text ≠ [] := by
  cases negative <;> simp [signed, notEmpty]

theorem Binary64.text_ne_nil (number : Binary64) : number.text ≠ [] := by
  cases number with
  | finite negative magnitude =>
      have shown : magnitudeText magnitude ≠ [] := by
        simp only [magnitudeText]
        split
        · exact Decimal.positional_ne_nil _
        · exact Decimal.exponential_ne_nil _ _
      exact signed_ne_nil shown
  | infinite negative => cases negative <;> simp [text, signed]
  | notANumber payload => simp [text]

/-- A value of JSON that counts as true has a text. -/
theorem Value.display_ne_empty {value : Value} (json : value.isJson = true)
    (isTrue : value.truthy = true) : value.display ≠ "" := by
  have shown : value.displayed ≠ [] := by
    cases value with
    | text characters => simpa [displayed, truthy] using isTrue
    | bool truth => cases truth <;> simp [displayed, quoted]
    | int number => exact Decimal.integer_ne_nil number
    | float number => exact number.text_ne_nil
    | null | list items | object fields => simp [displayed, quoted]
    | mapping bindings | foreign identity label =>
        simp [isJson, consistsOf, isJsonScalar] at json
  intro empty
  exact shown (by simpa [display] using congrArg String.toList empty)

end Automation
